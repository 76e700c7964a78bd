import Mathlib.Data.List.TakeWhile
import PgMetrics.Text.Blank
import PgMetrics.Url.Reader

namespace PgMetrics.Url

theorem significant_append_mark (before rest : List Char) :
    significant (before ++ '@' :: rest) = before.filter (!isDropped ·) ++ '@' :: significant rest := by
  have kept : (before ++ '@' :: rest).reverse.dropWhile isPadding =
      rest.reverse.dropWhile isPadding ++ '@' :: before.reverse := by
    rw [List.reverse_append, List.reverse_cons, List.append_assoc, List.dropWhile_append]
    split
    · rename_i blank
      rw [List.isEmpty_iff.1 blank]
      rfl
    · rfl
  unfold significant
  rw [kept]
  simp [isDropped]

/-- The last mark of the authority splits it, and what is before an earlier one belongs to the credentials. -/
theorem splitCredentials_append_mark (before behind : List Char) :
    splitCredentials (before ++ '@' :: behind) =
      (some (before ++ ((splitCredentials behind).1.map ('@' :: ·)).getD []), (splitCredentials behind).2) := by
  unfold splitCredentials
  rw [List.reverse_append, List.reverse_cons, List.append_assoc, List.singleton_append]
  dsimp only
  rw [List.dropWhile_append, List.takeWhile_append]
  have whole := List.takeWhile_append_dropWhile (p := (· != '@')) (l := behind.reverse)
  cases found : behind.reverse.dropWhile (· != '@') with
  | nil =>
    rw [found, List.append_nil] at whole
    simp [whole]
  | cons c later =>
    have shorter : (behind.reverse.takeWhile (· != '@')).length ≠ behind.reverse.length := by
      have total := congrArg List.length whole
      rw [found, List.length_append, List.length_cons] at total
      omega
    have mark : c = '@' := by
      have stopped := @Text.head_dropWhile (· != '@') behind.reverse c (by rw [found]; rfl)
      simpa using stopped
    rw [if_neg shorter, if_neg (by simp)]
    simp [mark]

theorem readCredentials_of_not_mem {user : List Char} (plain : ':' ∉ user) :
    readCredentials user = (Percent.encode Percent.userSet user, none) := by
  have unmarked : ∀ c ∈ user, (c != ':') = true := fun c member => by
    simpa using fun same : c = ':' => plain (same ▸ member)
  unfold readCredentials
  rw [List.dropWhile_eq_nil_iff.2 unmarked]

theorem readCredentials_colon {user password : List Char} (plain : ':' ∉ user) (ne : password ≠ []) :
    readCredentials (user ++ ':' :: password) =
      (Percent.encode Percent.userSet user, some (Percent.encode Percent.userSet password)) := by
  have unmarked : ∀ c ∈ user, (c != ':') = true := fun c member => by
    simpa using fun same : c = ':' => plain (same ▸ member)
  unfold readCredentials
  rw [List.dropWhile_append_of_pos unmarked, List.takeWhile_append_of_pos unmarked]
  obtain ⟨c, cs, rfl⟩ := List.exists_cons_of_ne_nil ne
  simp

/-- The rest of a URL behind its credentials. -/
def readBehind (scheme user password cs : List Char) : Except UrlError Url := do
  let authority := cs.takeWhile (!endsAuthority ·)
  let rest := (splitCredentials authority).2 ++ cs.dropWhile (!endsAuthority ·)
  let (host, port, rest) ← readHostAndPort true rest
  let (path, query, fragment) := readTail rest
  .ok { scheme, user := Percent.encode Percent.userSet user, password := some password, host, port, path, query,
        fragment }

/-- The rest does not look at the password. -/
theorem readBehind_cases (scheme user password password' cs : List Char) :
    (∃ e, readBehind scheme user password cs = .error e ∧ readBehind scheme user password' cs = .error e) ∨
      ∃ u : Url, readBehind scheme user password cs = .ok { u with password := some password } ∧
        readBehind scheme user password' cs = .ok { u with password := some password' } := by
  unfold readBehind
  dsimp only
  cases readHostAndPort true
      ((splitCredentials (cs.takeWhile (!endsAuthority ·))).2 ++ cs.dropWhile (!endsAuthority ·)) with
  | error e => exact .inl ⟨e, rfl, rfl⟩
  | ok places =>
    obtain ⟨host, port, rest⟩ := places
    exact .inr ⟨⟨scheme, Percent.encode Percent.userSet user, none, host, port, (readTail rest).1,
      (readTail rest).2.1, (readTail rest).2.2⟩, rfl, rfl⟩

theorem authority_append_mark {front : List Char} (inside : ∀ c ∈ front, endsAuthority c = false)
    (rest : List Char) :
    (front ++ '@' :: rest).takeWhile (!endsAuthority ·) = front ++ '@' :: rest.takeWhile (!endsAuthority ·) ∧
      (front ++ '@' :: rest).dropWhile (!endsAuthority ·) = rest.dropWhile (!endsAuthority ·) := by
  have kept : ∀ c ∈ front, (!endsAuthority c) = true := fun c member => by simp [inside c member]
  constructor
  · rw [List.takeWhile_append_of_pos kept, List.takeWhile_cons_of_pos (by decide)]
  · rw [List.dropWhile_append_of_pos kept, List.dropWhile_cons_of_pos (by decide)]

/-- A password between a colon and a mark, in an authority that does not end before, is read as one. -/
theorem read_credentials {user password : List Char} (scheme rest : List Char) (plain : ':' ∉ user)
    (inside : ∀ c ∈ user ++ password, endsAuthority c = false) (ne : password.filter (!isDropped ·) ≠ []) :
    ∃ shown, read scheme (user ++ ':' :: (password ++ '@' :: rest)) =
      readBehind scheme (user.filter (!isDropped ·)) shown (significant rest) := by
  have start := significant_append_mark (user ++ ':' :: password) rest
  rw [List.append_assoc, List.cons_append, List.filter_append, List.filter_cons_of_pos (by decide)] at start
  have plain : ':' ∉ user.filter (!isDropped ·) := fun member => plain (List.mem_filter.1 member).1
  have inside : ∀ c ∈ user.filter (!isDropped ·) ++ ':' :: password.filter (!isDropped ·),
      endsAuthority c = false := by
    intro c member
    simp only [List.mem_append, List.mem_cons, List.mem_filter] at member inside
    rcases member with ⟨atUser, _⟩ | rfl | ⟨atPassword, _⟩
    · exact inside c (.inl atUser)
    · decide
    · exact inside c (.inr atPassword)
  generalize user.filter (!isDropped ·) = user, password.filter (!isDropped ·) = password at *
  obtain ⟨authority, behind⟩ := authority_append_mark inside (significant rest)
  have split := splitCredentials_append_mark (user ++ ':' :: password)
    ((significant rest).takeWhile (!endsAuthority ·))
  generalize ((splitCredentials ((significant rest).takeWhile (!endsAuthority ·))).1.map ('@' :: ·)).getD [] = more
    at split
  have credentials : readCredentials (user ++ ':' :: (password ++ more)) = (_, _) :=
    readCredentials_colon plain (by simp [ne])
  refine ⟨Percent.encode Percent.userSet (password ++ more), ?_⟩
  simp only [List.append_assoc, List.cons_append] at start authority behind split credentials
  unfold read
  simp only [start, authority, behind, split, Option.getD_some, credentials]
  rw [if_neg (by simp), Option.isSome_some, Bool.or_true]
  rfl

end PgMetrics.Url
