import Mathlib.Data.List.Infix
import Mathlib.Data.List.TakeWhile
import PgMetrics.Dsn.Basic
import PgMetrics.Proofs.Text.Cuts

namespace PgMetrics.Dsn

/-- A text at which a value without quotes ends. -/
def EndsValue (cs : List Char) : Prop :=
  ∀ c, cs.head? = some c → Text.isBlank c = true

/-- A written value that the search takes whole: without blanks, or in quotes without a protected line end. -/
inductive Delimited : List Char → Prop
  | plain {v} : v ≠ [] → v.head? ≠ some '\'' → (∀ c ∈ v, Text.isBlank c = false) → Delimited v
  | quoted {body} : behindQuoted? false body = some [] → Delimited ('\'' :: body)

/-- A text in which nothing is assigned to a name. -/
def Unassigned (name cs : List Char) : Prop :=
  ∀ tail, tail <:+ cs → assignment? name tail = none

instance (name cs : List Char) : Decidable (Unassigned name cs) :=
  decidable_of_iff (∀ tail ∈ cs.tails, assignment? name tail = none) (by simp [Unassigned])

/-- A name no end of which is a beginning of it, so that it is not found across its own start. -/
structure Borderless (name : List Char) : Prop where
  ne : name ≠ []
  begins : ∀ c, name.head? = some c → Text.isBlank c = false ∧ c ≠ '='
  borderless : ∀ n < name.length, 0 < n → name.drop n ≠ name.take (name.length - n)

/-- A name with its equals sign, as it is written. -/
def assignment (name gap gap' : List Char) : List Char :=
  name ++ (gap ++ '=' :: gap')

section Reading

variable {name cs head rest v : List Char}

theorem assignment?_eq (h : assignment? name cs = some (head, rest)) :
    cs = head ++ rest ∧ name <+: head := by
  unfold assignment? at h
  split at h
  case isFalse => cases h
  case isTrue named =>
    obtain ⟨behind, rfl⟩ := List.isPrefixOf_iff_prefix.1 named
    simp only [List.drop_left] at h
    split at h
    case h_2 => cases h
    case h_1 later atEq =>
      simp only [Option.some.injEq, Prod.mk.injEq] at h
      obtain ⟨rfl, rfl⟩ := h
      refine ⟨?_, by simp [List.append_assoc]⟩
      have whole := List.takeWhile_append_dropWhile (p := Text.isBlank) (l := behind)
      rw [atEq] at whole
      simp only [List.append_assoc, List.cons_append, List.takeWhile_append_dropWhile, whole]

theorem behindQuoted?_suffix {escaped : Bool} (h : behindQuoted? escaped cs = some rest) : rest <:+ cs := by
  induction cs generalizing escaped with
  | nil => cases h
  | cons c cs ih =>
    simp only [behindQuoted?] at h
    split at h
    · split at h
      · cases h
      · exact (ih h).trans (List.suffix_cons c cs)
    · split at h
      · cases h
        exact List.suffix_cons c _
      · exact (ih h).trans (List.suffix_cons c cs)

theorem behindValue?_suffix (h : behindValue? cs = some rest) : rest <:+ cs := by
  have plain {r} (h : (if cs.head?.any (!Text.isBlank ·) then some (cs.dropWhile (!Text.isBlank ·)) else none) =
      some r) : r <:+ cs := by
    split at h
    · cases h
      exact List.dropWhile_suffix _
    · cases h
  unfold behindValue? at h
  dsimp only at h
  split at h
  case h_2 => exact plain h
  case h_1 body =>
    obtain quoted | ⟨_, h⟩ := Option.or_eq_some_iff.1 h
    · exact (behindQuoted?_suffix quoted).trans (List.suffix_cons _ _)
    · exact plain h

/-- An assigned value leaves a shorter text behind. -/
theorem assigned?_length (named : name ≠ []) (h : assigned? name cs = some (head, rest)) :
    rest.length < cs.length := by
  unfold assigned? at h
  split at h
  case h_2 => cases h
  case h_1 head' r atValue =>
    obtain ⟨rest', behind, same⟩ := Option.map_eq_some_iff.1 h
    cases same
    obtain ⟨rfl, nameFirst⟩ := assignment?_eq atValue
    have shorter := (behindValue?_suffix behind).length_le
    have long := nameFirst.length_le
    have positive := List.length_pos_iff.2 named
    rw [List.length_append]
    omega

/-- A value that the search takes whole is passed over together, whatever is behind it. -/
theorem Delimited.behindValue? {after : List Char} (delimited : Delimited v) (ends : EndsValue after) :
    behindValue? (v ++ after) = some after := by
  cases delimited with
  | plain ne unquoted unblank =>
    obtain ⟨c, v, rfl⟩ := List.exists_cons_of_ne_nil ne
    have unquotedHead : c ≠ '\'' := by simpa using unquoted
    have visible : Text.isBlank c = false := unblank c (List.mem_cons_self ..)
    have inside : ∀ d ∈ c :: v, (!Text.isBlank d) = true := by simpa using unblank
    have taken : (c :: v ++ after).dropWhile (!Text.isBlank ·) = after :=
      (Text.cut_append inside fun d first => by simp [ends d first]).2
    unfold Dsn.behindValue?
    simp only [taken]
    split
    · rename_i same
      exact absurd (List.cons.inj same).1 unquotedHead
    · simp [visible]
  | @quoted body closed =>
    have open_ {escaped : Bool} {cs rest : List Char} (h : behindQuoted? escaped cs = some rest) :
        behindQuoted? escaped (cs ++ after) = some (rest ++ after) := by
      induction cs generalizing escaped with
      | nil => cases h
      | cons c cs ih =>
        simp only [behindQuoted?, List.cons_append] at h ⊢
        grind
    unfold Dsn.behindValue?
    simp only [List.cons_append, open_ closed, List.nil_append, Option.some_or]

theorem Delimited.begins (delimited : Delimited v) : ∃ c cs, v = c :: cs ∧ Text.isBlank c = false := by
  cases delimited with
  | plain ne _ unblank =>
    obtain ⟨c, v, rfl⟩ := List.exists_cons_of_ne_nil ne
    exact ⟨c, v, rfl, unblank c (List.mem_cons_self ..)⟩
  | quoted => exact ⟨_, _, rfl, by decide⟩

theorem assigned?_assignment {gap gap' after : List Char} (blank : ∀ c ∈ gap, Text.isBlank c = true)
    (blank' : ∀ c ∈ gap', Text.isBlank c = true) (delimited : Delimited v) (ends : EndsValue after) :
    assigned? name (assignment name gap gap' ++ (v ++ after)) = some (assignment name gap gap', after) := by
  obtain ⟨c, cs, rfl, visible⟩ := delimited.begins
  have behind := delimited.behindValue? ends
  have found : assignment? name (assignment name gap gap' ++ (c :: cs ++ after)) =
      some (assignment name gap gap', c :: cs ++ after) := by
    have atEquals : ∀ d, ('=' :: (gap' ++ (c :: cs ++ after))).head? = some d → Text.isBlank d = false := by
      rintro _ ⟨⟩
      decide
    have atValue : ∀ d, (c :: cs ++ after).head? = some d → Text.isBlank d = false := by
      rintro _ ⟨⟩
      exact visible
    have equals := Text.cut_append blank atEquals
    have value := Text.cut_append blank' atValue
    rw [List.cons_append] at equals value ⊢
    unfold assignment?
    rw [if_pos (List.isPrefixOf_iff_prefix.2 ⟨_, by rw [assignment, List.append_assoc]⟩)]
    simp only [assignment, List.append_assoc, List.drop_left, List.cons_append, equals, value]
  rw [assigned?, found]
  simp only [behind, Option.map_some]

/-- No part of a name at the end of a text begins the name once more. -/
theorem assignment?_append_name {tail : List Char} (borderless : Borderless name) (ne : cs ≠ [])
    (absent : assignment? name cs = none) : assignment? name (cs ++ (name ++ tail)) = none := by
  unfold assignment?
  split
  case isFalse => rfl
  case isTrue named =>
    have first := List.isPrefixOf_iff_prefix.1 named
    have start := List.prefix_append cs (name ++ tail)
    by_cases inside : name.length ≤ cs.length
    · obtain ⟨behind, rfl⟩ := List.prefix_of_prefix_length_le first start inside
      rw [assignment?, if_pos (List.isPrefixOf_iff_prefix.2 ⟨behind, rfl⟩)] at absent
      rw [List.append_assoc]
      simp only [List.drop_left] at absent ⊢
      -- Behind the blanks there is what was there before, or else the key.
      by_cases blank : ∀ c ∈ behind, Text.isBlank c = true
      · rw [List.dropWhile_append_of_pos blank]
        obtain ⟨c, later, rfl⟩ := List.exists_cons_of_ne_nil borderless.ne
        obtain ⟨visible, other⟩ := borderless.begins c rfl
        rw [List.cons_append, List.dropWhile_cons_of_neg (by simp [visible])]
        split
        · rename_i same
          exact absurd (List.cons.inj same).1 other
        · rfl
      · have visible : behind.dropWhile Text.isBlank ≠ [] := fun none => blank (List.dropWhile_eq_nil_iff.1 none)
        rw [List.dropWhile_append, if_neg (by simpa using visible)]
        split at absent
        · cases absent
        · rename_i other
          obtain ⟨c, later, atC⟩ := List.exists_cons_of_ne_nil visible
          rw [atC] at other ⊢
          split
          · rename_i same
            exact absurd (by rw [(List.cons.inj same).1]) (other later)
          · rfl
    · obtain ⟨rest, whole⟩ := List.prefix_of_prefix_length_le start first (by omega)
      rw [← whole, List.prefix_append_right_inj] at first
      have shorter : cs.length + rest.length = name.length := by rw [← whole, List.length_append]
      have again : rest <+: name :=
        List.prefix_of_prefix_length_le first (by rw [whole]; exact List.prefix_append ..) (by omega)
      refine absurd ?_ (borderless.borderless cs.length (by omega) (List.length_pos_iff.2 ne))
      have left : name.drop cs.length = rest := by rw [← whole, List.drop_left]
      rw [left, List.prefix_iff_eq_take.1 again]
      congr 1
      omega

end Reading

end PgMetrics.Dsn
