import PgMetrics.Proofs.Dsn.Location
import PgMetrics.Proofs.Url.Credentials

namespace PgMetrics

/-- The reader of URLs finds the same parts, and none of them is lost on it: neither an empty user or password nor the
spelling of an address. -/
structure Locator.Layout.IsShared (l : Layout) : Prop extends l.IsCut where
  some_ : ∀ given, l.credentials = some given → given ≠ []
  password : ∀ given, l.credentials = some given → given.dropWhile (· != ':') ≠ [':']
  inside : ∀ given, l.credentials = some given → ∀ c ∈ given, Url.endsAuthority c = false
  noMark : '@' ∉ l.place
  noFragment : '#' ∉ l.place ++ l.path
  address : l.place.head? = some '[' → Url.readHost (Url.splitHost false l.place).1 = .ok (Url.splitHost false l.place).1

namespace Url

open Percent Locator

variable {cs : List Char}

theorem splitHost_eq {bracketed : Bool} {host rest : List Char} (split : splitHost bracketed cs = (host, rest)) :
    ∃ port, cs = host ++ optional ':' port ∧ rest = optional ':' port := by
  induction cs generalizing bracketed host with
  | nil =>
    obtain ⟨rfl, rfl⟩ := Prod.mk.inj split
    exact ⟨none, rfl, rfl⟩
  | cons c cs ih =>
    rw [splitHost] at split
    split at split
    · rename_i colon
      obtain ⟨rfl, rfl⟩ := Prod.mk.inj split
      exact ⟨some cs, by rw [colon.1]; rfl, by rw [colon.1]; rfl⟩
    · obtain ⟨rfl, rfl⟩ := Prod.mk.inj split
      obtain ⟨port, whole, rest⟩ := ih rfl
      exact ⟨port, congrArg (c :: ·) whole, rest⟩

/-- A port is a number of sixteen bits in digits, or none without digits. -/
theorem readPort_ok {n : Nat} {some? : Bool} {port : Option Nat} {tail : List Char}
    (read : readPort n some? cs = .ok (port, tail)) (start : n ≤ Text.maxUInt16) :
    ∃ digits, cs = digits ++ tail ∧ (∀ d ∈ digits, d.isDigit = true) ∧
      Nat.ofDigitChars 10 digits n ≤ Text.maxUInt16 ∧
      port = (if some? = true ∨ digits ≠ [] then some (Nat.ofDigitChars 10 digits n) else none) ∧
      ∀ c, tail.head? = some c → endsAuthority c = true ∨ c = '\\' := by
  induction cs generalizing n some? with
  | nil =>
    obtain ⟨rfl, rfl⟩ := Prod.mk.inj (Except.ok.inj read)
    exact ⟨[], rfl, by simp, start, by simp, by simp⟩
  | cons c cs ih =>
    rw [readPort] at read
    split at read
    · rename_i digit
      have next : n * 10 + (c.toNat - 48) = 10 * n + (c.toNat - '0'.toNat) := by
        rw [Nat.mul_comm]
        rfl
      dsimp only at read
      rw [next] at read
      split at read
      · rename_i within
        obtain ⟨digits, rfl, all, le, rfl, ends⟩ := ih read within
        refine ⟨c :: digits, rfl, List.forall_mem_cons.2 ⟨digit, all⟩, ?_, ?_, ends⟩
        · rwa [Nat.ofDigitChars_cons]
        · rw [Nat.ofDigitChars_cons, if_pos (.inl rfl), if_pos (.inr (List.cons_ne_nil _ _))]
      · cases read
    · split at read
      · rename_i stop
        obtain ⟨rfl, rfl⟩ := Prod.mk.inj (Except.ok.inj read)
        refine ⟨[], rfl, by simp, start, by simp, ?_⟩
        rintro _ ⟨⟩
        simpa using stop
      · cases read

theorem readHostAndPort_ok {credentials : Bool} {place rest host tail : List Char} {port : Option Nat}
    (inside : ∀ c ∈ place, endsAuthority c = false) (ends : ∀ c, rest.head? = some c → endsAuthority c = true)
    (read : readHostAndPort credentials (place ++ rest) = .ok (host, port, tail)) :
    ∃ text, place = (splitHost false place).1 ++ optional ':' text ∧ readHost (splitHost false place).1 = .ok host ∧
      match text with
      | none => port = none ∧ tail = rest
      | some text => host ≠ [] ∧ readPort 0 false (text ++ rest) = .ok (port, tail) := by
  obtain ⟨authority, behind⟩ := @Text.cut_append (!endsAuthority ·) place rest (fun c member => by simp [inside c member])
    fun c first => by simp [ends c first]
  unfold readHostAndPort at read
  simp only [authority, behind] at read
  generalize split : splitHost false place = parts at read ⊢
  obtain ⟨h, r⟩ := parts
  obtain ⟨text, rfl, rfl⟩ := splitHost_eq split
  refine ⟨text, rfl, ?_⟩
  cases atHost : readHost h with
  | error e =>
    rw [atHost] at read
    cases read
  | ok host' =>
    simp only [atHost, bind, Except.bind] at read
    cases text with
    | none =>
      rw [optional, List.nil_append] at read
      split at read
      · cases ends ':' rfl
      · split at read
        · cases read
        · cases read
          exact ⟨rfl, rfl, rfl⟩
    | some text =>
      simp only [optional, List.cons_append] at read
      split at read
      · cases read
      · rename_i some_
        cases atPort : readPort 0 false (text ++ rest) with
        | error e =>
          rw [atPort] at read
          cases read
        | ok parts =>
          rw [atPort] at read
          cases read
          exact ⟨rfl, by simpa using some_, atPort⟩

theorem splitCredentials_front {credentials : Option (List Char)} {place : List Char} (apart : '@' ∉ place) :
    splitCredentials (Layout.front credentials ++ place) = (credentials, place) := by
  have none_ : splitCredentials place = (none, place) := by
    have all : ∀ c ∈ place.reverse, (c != '@') = true := fun c member => by
      simpa using fun same : c = '@' => apart (same ▸ List.mem_reverse.1 member)
    unfold splitCredentials
    dsimp only
    rw [List.dropWhile_eq_nil_iff.2 all]
  cases credentials with
  | none => exact none_
  | some cs =>
    rw [Layout.front, List.append_assoc, List.singleton_append, splitCredentials_append_mark, none_]
    simp

/-- A fragment begins at the first hash, and a query before it at the first question mark. -/
theorem readTail_eq {path : List Char} {query fragment : Option (List Char)} (noQuery : '?' ∉ path)
    (noFragment : '#' ∉ path ++ optional '?' query) :
    (readTail (path ++ optional '?' query ++ optional '#' fragment)).2 =
      (query.map (encode querySet), fragment.map (encode fragmentSet)) := by
  have hash := @Text.cut_append (· != '#') (path ++ optional '?' query) (optional '#' fragment)
    (fun c member => by simpa using fun same : c = '#' => noFragment (same ▸ member)) (by
      rintro c first
      cases fragment <;> cases first
      rfl)
  have mark := @Text.cut_append (· != '?') path (optional '?' query)
    (fun c member => by simpa using fun same : c = '?' => noQuery (same ▸ member)) (by
      rintro c first
      cases query <;> cases first
      rfl)
  unfold readTail
  simp only [hash.1, hash.2, mark.2]
  cases query <;> cases fragment <;> rfl

/-- Query and fragment are written back in another spelling. -/
theorem readTail_respells {path : List Char} {query : Option (List Char)} (noQuery : '?' ∉ path)
    (noFragment : '#' ∉ path) {path' : List Char} {query' fragment : Option (List Char)}
    (read : readTail (path ++ optional '?' query) = (path', query', fragment)) :
    ∃ query'', optional '?' query' ++ optional '#' fragment = optional '?' query'' ∧
      Respells parameterMarks (query.getD []) (query''.getD []) := by
  cases query with
  | none =>
    have parts := @readTail_eq path none none noQuery (by simpa [optional] using noFragment)
    rw [optional.eq_2 '#', List.append_nil, read] at parts
    obtain ⟨rfl, rfl⟩ := Prod.mk.inj parts
    exact ⟨none, rfl, .nil⟩
  | some q =>
    have marks {encoded : Char → Bool} (plain : parameterMarks.all (!encoded ·) = true) :
        ∀ c ∈ parameterMarks, encoded c = false :=
      fun c member => by simpa using List.all_eq_true.1 plain c member
    have plain (cs : List Char) : Respells parameterMarks cs (encode querySet cs) :=
      .of_encode (marks (by decide)) (fun _ => userSet_of_querySet) cs
    have plain' (cs : List Char) : Respells parameterMarks cs (encode fragmentSet cs) :=
      .of_encode (marks (by decide)) (fun _ => userSet_of_fragmentSet) cs
    obtain ⟨before, f, rfl, apart⟩ := exists_cut '#' q
    have parts := @readTail_eq path (some before) f noQuery (by simp [optional, noFragment, apart])
    have whole : path ++ optional '?' (some before) ++ optional '#' f =
        path ++ optional '?' (some (before ++ optional '#' f)) := by simp [optional]
    rw [whole, read] at parts
    obtain ⟨rfl, rfl⟩ := Prod.mk.inj parts
    refine ⟨some (encode querySet before ++ optional '#' (f.map (encode fragmentSet))), rfl, (plain before).append ?_⟩
    cases f with
    | none => exact .nil
    | some f => exact (plain' f).kept

section Shared

variable {l : Layout}

theorem endsAuthority_of_mem_place (shared : l.IsShared) {c : Char} (member : c ∈ l.place) : endsAuthority c = false := by
  have noFragment := shared.noFragment
  rw [List.mem_append, not_or] at noFragment
  have slash : c ≠ '/' := fun same => shared.place.1 (same ▸ member)
  have mark : c ≠ '?' := fun same => shared.place.2 (same ▸ member)
  have hash : c ≠ '#' := fun same => noFragment.1 (same ▸ member)
  simp [endsAuthority, slash, mark, hash]

theorem endsAuthority_of_head_rest (isCut : l.IsCut) {c : Char}
    (first : (l.path ++ optional '?' l.query).head? = some c) : endsAuthority c = true := by
  obtain rfl | rfl := isCut.head_rest first <;> rfl

/-- The authority of a text are its credentials and its place. -/
theorem authority_text (shared : l.IsShared) :
    l.text.takeWhile (!endsAuthority ·) = Layout.front l.credentials ++ l.place ∧
      l.text.dropWhile (!endsAuthority ·) = l.path ++ optional '?' l.query := by
  have inside : ∀ c ∈ Layout.front l.credentials ++ l.place, (!endsAuthority c) = true := by
    intro c member
    obtain before | atPlace := List.mem_append.1 member
    · cases given : l.credentials with
      | none => simp [given, Layout.front] at before
      | some cs =>
        rw [given, Layout.front, List.mem_append, List.mem_singleton] at before
        obtain among | rfl := before
        · rw [shared.inside cs given c among]
          rfl
        · rfl
    · rw [endsAuthority_of_mem_place shared atPlace]
      rfl
  rw [Layout.text, Layout.location, ← List.append_assoc]
  exact Text.cut_append inside fun c first => by
    rw [endsAuthority_of_head_rest shared.toIsCut first]
    rfl

/-- A URL has its credentials from the credentials of a text, its host and port from the place and the rest from behind
it. -/
theorem read_text {scheme : List Char} {u : Url} (shared : l.IsShared) (counts : significant cs = l.text)
    (ok : read scheme cs = .ok u) :
    u.scheme = scheme ∧ (u.user, u.password) = readCredentials (l.credentials.getD []) ∧
      ∃ credentials tail,
        readHostAndPort credentials (l.place ++ (l.path ++ optional '?' l.query)) = .ok (u.host, u.port, tail) ∧
        readTail tail = (u.path, u.query, u.fragment) := by
  obtain ⟨authority, behind⟩ := authority_text shared
  have named : ¬(l.credentials = some [] ∧
      (l.place ++ (l.path ++ optional '?' l.query)).head?.any endsAuthority = true) :=
    fun both => shared.some_ [] both.1 rfl
  unfold read at ok
  simp only [counts, authority, behind, splitCredentials_front shared.noMark, if_neg named] at ok
  generalize readCredentials (l.credentials.getD []) = given at ok ⊢
  cases located : readHostAndPort (!given.1.isEmpty || given.2.isSome) (l.place ++ (l.path ++ optional '?' l.query)) with
  | error e =>
    rw [located] at ok
    cases ok
  | ok parts =>
    rw [located] at ok
    cases ok
    exact ⟨rfl, rfl, _, _, located, rfl⟩

end Shared

end Url

end PgMetrics
