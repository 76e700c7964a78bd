import Mathlib.Data.List.Forall2
import PgMetrics.Proofs.Text.Cuts
import PgMetrics.Proofs.Text.Numerals
import PgMetrics.Proofs.Version.Ranges
import PgMetrics.Version.Banner

namespace PgMetrics.Version

open Text

/-- Further runs of digits of a version, at most so many. Each stands behind a point, and one that could be taken is. -/
inductive Dotted : Nat → List Char → List (List Char) → Prop
  | full {cs} : Dotted 0 cs []
  | stop {room cs} : (∀ c rest, cs = '.' :: c :: rest → isDecimalDigit c = false) → Dotted (room + 1) cs []
  | point {room run rest runs} : IsRun isDecimalDigit run rest → Dotted room rest runs →
      Dotted (room + 1) ('.' :: (run ++ rest)) (run :: runs)

/-- A text that begins with a product, blanks and then one to three runs of digits with points between them. -/
inductive IsBanner : List Char → List (List Char) → Prop
  | mk {product blanks run rest runs} : product ≠ [] → (∀ c ∈ product, isBlank c = false) →
      blanks ≠ [] → (∀ c ∈ blanks, isBlank c = true) → IsRun isDecimalDigit run rest → Dotted 2 rest runs →
      IsBanner (product ++ (blanks ++ (run ++ rest))) (run :: runs)

/-- ASCII digits write a number below 2⁶⁴. -/
structure Writes (digits : List Char) (n : UInt64) : Prop where
  ascii : ∀ c ∈ digits, c.isDigit = true
  value : Nat.ofDigitChars 10 digits 0 = n.toNat

variable {product blanks run rest cs digits : List Char} {runs : List (List Char)} {room : Nat} {t : String}
  {n : UInt64} {ns : List UInt64}

theorem takeDigitRun_run (isRun : IsRun isDecimalDigit run rest) : takeDigitRun (run ++ rest) = (run, rest) := by
  obtain ⟨taken, left⟩ := cut_append isRun.all isRun.stop
  rw [takeDigitRun, taken, left]

theorem run_of_takeDigitRun (taken : takeDigitRun cs = (run, rest)) :
    cs = run ++ rest ∧ (run ≠ [] → IsRun isDecimalDigit run rest) := by
  obtain ⟨rfl, rfl⟩ := Prod.mk.inj taken
  exact ⟨List.takeWhile_append_dropWhile.symm, isRun_takeWhile⟩

theorem takeDigitRun_fst_eq_nil_iff : (takeDigitRun cs).1 = [] ↔ ∀ c, cs.head? = some c → isDecimalDigit c = false := by
  cases cs with
  | nil => simp [takeDigitRun]
  | cons c cs => cases digit : isDecimalDigit c <;> simp [takeDigitRun, digit]

theorem dotted_dottedRuns (room : Nat) (cs : List Char) : Dotted room cs (dottedRuns room cs) := by
  fun_induction dottedRuns room cs with
  | case1 room cs rest taken =>
    have none := takeDigitRun_fst_eq_nil_iff.1 (congrArg Prod.fst taken)
    refine .stop fun c rest same => none c ?_
    rw [(List.cons.inj same).2]
    rfl
  | case2 room cs run rest ne taken ih =>
    obtain ⟨rfl, isRun⟩ := run_of_takeDigitRun taken
    exact .point (isRun ne) ih
  | case3 room cs other =>
    cases room with
    | zero => exact .full
    | succ room => exact .stop fun c rest same => (other room (c :: rest) rfl same).elim

theorem dottedRuns_eq (dotted : Dotted room cs runs) : dottedRuns room cs = runs := by
  induction dotted with
  | full => exact dottedRuns.eq_2 _ _ fun _ _ none => nomatch none
  | @stop room cs none =>
    by_cases point : ∃ rest, cs = '.' :: rest
    · obtain ⟨rest, rfl⟩ := point
      have taken : (takeDigitRun rest).1 = [] := by
        refine takeDigitRun_fst_eq_nil_iff.2 fun c head => ?_
        obtain ⟨rest, rfl⟩ := List.head?_eq_some_iff.1 head
        exact none c rest rfl
      rw [dottedRuns]
      split
      · rfl
      · rename_i run rest _ cut
        rw [cut] at taken
        contradiction
    · exact dottedRuns.eq_2 _ _ fun _ rest _ same => point ⟨rest, same⟩
  | @point room run rest runs isRun _ ih =>
    rw [dottedRuns, takeDigitRun_run isRun]
    split
    · rename_i cut
      exact absurd (congrArg Prod.fst cut) isRun.ne
    · rename_i run rest _ cut
      cases cut
      rw [ih]

/-- A product with blanks behind it ends where they begin. -/
theorem cut_product (all : ∀ c ∈ product, isBlank c = false) (blank : ∀ c ∈ blanks, isBlank c = true)
    (apart : blanks = [] → rest = []) :
    (product ++ (blanks ++ rest)).takeWhile (!isBlank ·) = product ∧
      (product ++ (blanks ++ rest)).dropWhile (!isBlank ·) = blanks ++ rest := by
  have inside : ∀ c ∈ product, (!isBlank c) = true := by simpa using all
  have behind : ∀ c, (blanks ++ rest).head? = some c → (!isBlank c) = false := by
    cases blanks with
    | nil => simp [apart rfl]
    | cons b blanks => simpa using blank b (List.mem_cons_self ..)
  exact cut_append inside behind

/-- Without a digit directly behind the product and its blanks there are no numbers. -/
theorem bannerRuns_eq_nil (all : ∀ c ∈ product, isBlank c = false) (blank : ∀ c ∈ blanks, isBlank c = true)
    (apart : blanks = [] → rest = [])
    (none : ∀ c, rest.head? = some c → isBlank c = false ∧ isDecimalDigit c = false) :
    bannerRuns (product ++ (blanks ++ rest)) = [] := by
  obtain ⟨taken, left⟩ := cut_product all blank apart
  have behind : (blanks ++ rest).dropWhile isBlank = rest := (cut_append blank fun c head => (none c head).1).2
  have noRun := takeDigitRun_fst_eq_nil_iff.2 fun c head => (none c head).2
  rw [bannerRuns, taken, left, behind]
  split
  · rfl
  · split
    · rfl
    · rename_i cut
      rw [cut] at noRun
      contradiction

theorem bannerRuns_eq (banner : IsBanner cs runs) : bannerRuns cs = runs := by
  cases banner with
  | @mk product blanks run rest runs ne all gap blank isRun dotted =>
    -- No digit is blank, so the blanks end where the number begins.
    have visible : ∀ c, (run ++ rest).head? = some c → isBlank c = false := by
      obtain ⟨c, run, rfl⟩ := List.exists_cons_of_ne_nil isRun.ne
      rintro _ ⟨⟩
      exact isBlank_of_isDecimalDigit (isRun.all c (List.mem_cons_self ..))
    have apart : blanks = [] → run ++ rest = [] := fun none => absurd none gap
    obtain ⟨taken, left⟩ := cut_product all blank apart
    rw [bannerRuns, taken, left, (cut_append blank visible).2, takeDigitRun_run isRun]
    simp [ne, gap, isRun.ne, dottedRuns_eq dotted]

theorem isBanner_of_bannerRuns (found : bannerRuns cs = run :: runs) : IsBanner cs (run :: runs) := by
  have whole : cs = cs.takeWhile (!isBlank ·) ++
      ((cs.dropWhile (!isBlank ·)).takeWhile isBlank ++ (cs.dropWhile (!isBlank ·)).dropWhile isBlank) := by
    rw [List.takeWhile_append_dropWhile, List.takeWhile_append_dropWhile]
  unfold bannerRuns at found
  dsimp only at found
  split at found
  · cases found
  · rename_i given
    simp only [Bool.or_eq_true, List.isEmpty_iff, not_or] at given
    obtain ⟨ne, gap⟩ := given
    split at found
    · cases found
    · rename_i run' rest some taken
      cases found
      obtain ⟨cut, isRun⟩ := run_of_takeDigitRun taken
      rw [cut] at whole
      rw [whole]
      refine .mk ne (fun c member => ?_) ?_ (fun c member => List.mem_takeWhile_imp member) (isRun some)
        (dotted_dottedRuns 2 rest)
      · simpa using List.mem_takeWhile_imp member
      · obtain ⟨b, behind, same⟩ := List.exists_cons_of_ne_nil gap
        have blank : (!isBlank b) = false := head_dropWhile (congrArg List.head? same)
        rw [same, List.takeWhile_cons_of_pos (by simpa using blank)]
        exact List.cons_ne_nil _ _

theorem readRun_eq_ok_iff (ne : digits ≠ []) (all : ∀ c ∈ digits, isDecimalDigit c = true) :
    readRun t digits = .ok n ↔ Writes digits n := by
  have numeral {m : Nat} : Numeral digits m ↔ (∀ c ∈ digits, c.isDigit = true) ∧ Nat.ofDigitChars 10 digits 0 = m := by
    constructor
    · intro numeral
      cases numeral with
      | plain _ ascii => exact ⟨ascii, rfl⟩
      -- A numeral may have a sign, but a run of digits has none.
      | signed => exact absurd (all '+' (List.mem_cons_self ..)) (by decide)
    · rintro ⟨ascii, rfl⟩
      exact .plain ne ascii
  have read {m : Nat} : readNatural maxUInt64 digits = .ok m ↔
      ((∀ c ∈ digits, c.isDigit = true) ∧ Nat.ofDigitChars 10 digits 0 = m) ∧ m < 2 ^ 64 := by
    rw [readNatural_eq_ok_iff, numeral, maxUInt64]
    exact and_congr_right fun _ => Nat.le_sub_one_iff_lt (Nat.two_pow_pos 64)
  unfold readRun
  constructor
  · intro done
    split at done
    · rename_i m number
      cases done
      obtain ⟨⟨ascii, value⟩, small⟩ := read.1 number
      exact ⟨ascii, by rw [value, UInt64.toNat_ofNat_of_lt' small]⟩
    · cases done
  · rintro ⟨ascii, value⟩
    rw [read.2 ⟨⟨ascii, value⟩, n.toNat_lt⟩]
    simp

theorem readRuns_eq_mapM (t : String) (runs : List (List Char)) : readRuns t runs = runs.mapM (readRun t) := by
  induction runs with
  | nil => rfl
  | cons run runs ih =>
    rw [readRuns, List.mapM_cons, ih]
    cases readRun t run with
    | error e => rfl
    | ok n => cases runs.mapM (readRun t) <;> rfl

theorem IsBanner.isRun (banner : IsBanner cs runs) :
    ∀ digits ∈ runs, digits ≠ [] ∧ ∀ c ∈ digits, isDecimalDigit c = true := by
  have later {room cs runs} (dotted : Dotted room cs runs) :
      ∀ digits ∈ runs, digits ≠ [] ∧ ∀ c ∈ digits, isDecimalDigit c = true := by
    induction dotted with
    | full => simp
    | stop => simp
    | point isRun _ ih => exact List.forall_mem_cons.2 ⟨⟨isRun.ne, isRun.all⟩, ih⟩
  cases banner with
  | mk _ _ _ _ isRun dotted => exact List.forall_mem_cons.2 ⟨⟨isRun.ne, isRun.all⟩, later dotted⟩

theorem IsBanner.ne_nil (banner : IsBanner cs runs) : runs ≠ [] := by
  cases banner
  exact List.cons_ne_nil _ _

theorem readRuns_eq_ok_iff (banner : IsBanner cs runs) : readRuns t runs = .ok ns ↔ List.Forall₂ Writes runs ns := by
  rw [readRuns_eq_mapM, mapM_eq_ok_iff]
  constructor
  · intro read
    exact ((List.forall₂_and_left runs ns).2 ⟨banner.isRun, read⟩).imp
      fun _ _ ⟨⟨ne, all⟩, number⟩ => (readRun_eq_ok_iff ne all).1 number
  · intro written
    exact ((List.forall₂_and_left runs ns).2 ⟨banner.isRun, written⟩).imp
      fun _ _ ⟨⟨ne, all⟩, number⟩ => (readRun_eq_ok_iff ne all).2 number

/-- An error is about one of the numbers. -/
theorem exists_of_readRuns_error {e : Failure} (failed : readRuns t runs = .error e) :
    ∃ digits ∈ runs, readRun t digits = .error e := by
  induction runs with
  | nil => cases failed
  | cons run runs ih =>
    rw [readRuns] at failed
    cases first : readRun t run with
    | error e' =>
      rw [first] at failed
      cases failed
      exact ⟨run, List.mem_cons_self .., first⟩
    | ok n =>
      rw [first] at failed
      cases rest : readRuns t runs with
      | error e' =>
        rw [rest] at failed
        cases failed
        obtain ⟨digits, member, same⟩ := ih rest
        exact ⟨digits, List.mem_cons_of_mem _ member, same⟩
      | ok ns =>
        rw [rest] at failed
        cases failed

theorem ofBanner_of_isBanner (banner : IsBanner t.toList runs) : ofBanner t =
    (readRuns t runs).map fun ns => release (ns.getD 0 0) (ns.getD 1 0) (ns.getD 2 0) := by
  obtain ⟨run, later, rfl⟩ := List.exists_cons_of_ne_nil banner.ne_nil
  rw [ofBanner, bannerRuns_eq banner]

theorem ofBanner_of_bannerRuns_nil (none : bannerRuns t.toList = []) :
    ofBanner t = .error (.of (.noVersionNumber t)) := by
  rw [ofBanner, none]

theorem ofBanner_eq_ok_iff {v : Version} : ofBanner t = .ok v ↔ ∃ runs numbers, IsBanner t.toList runs ∧
    List.Forall₂ Writes runs numbers ∧ v = release (numbers.getD 0 0) (numbers.getD 1 0) (numbers.getD 2 0) := by
  constructor
  · intro read
    cases found : bannerRuns t.toList with
    | nil =>
      rw [ofBanner_of_bannerRuns_nil found] at read
      cases read
    | cons run runs =>
      have banner := isBanner_of_bannerRuns found
      rw [ofBanner_of_isBanner banner] at read
      cases numbers : readRuns t (run :: runs) with
      | error e =>
        rw [numbers] at read
        cases read
      | ok ns =>
        rw [numbers] at read
        cases read
        exact ⟨_, ns, banner, (readRuns_eq_ok_iff banner).1 numbers, rfl⟩
  · rintro ⟨runs, numbers, banner, written, rfl⟩
    rw [ofBanner_of_isBanner banner, (readRuns_eq_ok_iff banner).2 written]
    rfl

/-- Digits of which one is not ASCII, or that write too large a number. -/
def IsBad (digits : List Char) : Prop :=
  (∃ c ∈ digits, c.isDigit = false) ∨ 2 ^ 64 ≤ Nat.ofDigitChars 10 digits 0

theorem isBad_iff : IsBad digits ↔ ∀ n, ¬Writes digits n := by
  constructor
  · rintro bad n ⟨ascii, value⟩
    obtain ⟨c, member, other⟩ | large := bad
    · rw [ascii c member] at other
      cases other
    · rw [value] at large
      exact absurd n.toNat_lt (Nat.not_lt.2 large)
  · intro unread
    by_contra good
    simp only [IsBad, not_or, not_exists, not_and, Bool.not_eq_false, Nat.not_le] at good
    obtain ⟨ascii, small⟩ := good
    exact unread (.ofNat _) ⟨ascii, (UInt64.toNat_ofNat_of_lt' small).symm⟩

/-- One bad run makes the whole reading fail, with an error that names a bad one. -/
theorem ofBanner_of_isBad (banner : IsBanner t.toList runs) (bad : ∃ digits ∈ runs, IsBad digits) :
    ∃ digits ∈ runs, IsBad digits ∧ ∃ e, ofBanner t =
      .error ((Failure.of (.integer e)).during (.readingComponent (String.ofList digits) t)) := by
  rw [ofBanner_of_isBanner banner]
  cases numbers : readRuns t runs with
  | ok ns =>
    have good {runs ns} (written : List.Forall₂ Writes runs ns) : ∀ digits ∈ runs, ¬IsBad digits := by
      induction written with
      | nil => simp
      | cons number _ ih => exact List.forall_mem_cons.2 ⟨fun bad => isBad_iff.1 bad _ number, ih⟩
    obtain ⟨digits, member, isBad⟩ := bad
    exact absurd isBad (good ((readRuns_eq_ok_iff banner).1 numbers) digits member)
  | error failure =>
    obtain ⟨digits, member, failed⟩ := exists_of_readRuns_error numbers
    obtain ⟨ne, all⟩ := banner.isRun digits member
    have unread : IsBad digits := isBad_iff.2 fun n number => by
      rw [(readRun_eq_ok_iff ne all).2 number] at failed
      cases failed
    unfold readRun at failed
    split at failed
    · cases failed
    · rename_i e _
      cases failed
      exact ⟨digits, member, unread, e, rfl⟩

theorem isRun_toDigits (n : Nat) (stop : ∀ c, rest.head? = some c → isDecimalDigit c = false) :
    IsRun isDecimalDigit (Nat.toDigits 10 n) rest where
  ne := Nat.toDigits_ne_nil
  all _ member := isDecimalDigit_of_isDigit (Nat.isDigit_of_mem_toDigits (by decide) (by decide) member)
  stop := stop

theorem writes_toDigits (n : UInt64) : Writes (Nat.toDigits 10 n.toNat) n where
  ascii _ member := Nat.isDigit_of_mem_toDigits (by decide) (by decide) member
  value := Nat.ofDigitChars_ten_toDigits

theorem ofBanner_text {product suffix : String} {a b c : UInt64} (ne : product ≠ "")
    (all : ∀ x ∈ product.toList, isBlank x = false)
    (stop : ∀ x, suffix.toList.head? = some x → isDecimalDigit x = false) :
    ofBanner (product ++ " " ++ (release a b c).text ++ suffix) = .ok (release a b c) := by
  have point : ∀ cs x, ('.' :: cs).head? = some x → isDecimalDigit x = false := by
    rintro cs _ ⟨⟩
    decide
  have blank : ∀ x ∈ [' '], isBlank x = true := by simp [isBlank]
  have written : (product ++ " " ++ (release a b c).text ++ suffix).toList =
      product.toList ++ ([' '] ++ (Nat.toDigits 10 a.toNat ++ '.' :: (Nat.toDigits 10 b.toNat ++
        '.' :: (Nat.toDigits 10 c.toNat ++ suffix.toList)))) := by
    simp [text, release, number]
  have further : Dotted 2 ('.' :: (Nat.toDigits 10 b.toNat ++ '.' :: (Nat.toDigits 10 c.toNat ++ suffix.toList))) _ :=
    .point (isRun_toDigits b.toNat (point _)) (.point (isRun_toDigits c.toNat stop) .full)
  have banner := IsBanner.mk (by simpa using ne) all (List.cons_ne_nil _ _) blank (isRun_toDigits a.toNat (point _))
    further
  rw [← written] at banner
  exact ofBanner_eq_ok_iff.2 ⟨_, [a, b, c], banner,
    .cons (writes_toDigits a) (.cons (writes_toDigits b) (.cons (writes_toDigits c) .nil)), rfl⟩

/-- A version is read exactly from a banner, all of whose runs of digits are ASCII and write numbers below 2⁶⁴; the
version has these numbers, zero for those that are missing, and no other parts. From other texts an error comes: from a
banner with another run the one that names such a run, and else that there is no version, so with a blank in front and
with no digit directly behind the product and its blanks. In particular each version is read back from its text behind a
product and a blank, whatever follows but a digit. -/
theorem reads_version_of_banner :
    (∀ t v, ofBanner t = .ok v ↔ ∃ runs numbers, IsBanner t.toList runs ∧ List.Forall₂ Writes runs numbers ∧
      v = release (numbers.getD 0 0) (numbers.getD 1 0) (numbers.getD 2 0)) ∧
    (∀ t, (∀ runs, ¬IsBanner t.toList runs) → ofBanner t = .error (.of (.noVersionNumber t))) ∧
    (∀ t runs, IsBanner t.toList runs → (∃ digits ∈ runs, IsBad digits) →
      ∃ digits ∈ runs, IsBad digits ∧ ∃ e, ofBanner t =
        .error ((Failure.of (.integer e)).during (.readingComponent (String.ofList digits) t))) ∧
    (∀ t c, t.toList.head? = some c → isBlank c = true → ofBanner t = .error (.of (.noVersionNumber t))) ∧
    (∀ t product blanks rest, t.toList = product ++ (blanks ++ rest) → (∀ c ∈ product, isBlank c = false) →
      (∀ c ∈ blanks, isBlank c = true) → (blanks = [] → rest = []) →
      (∀ c, rest.head? = some c → isBlank c = false ∧ isDecimalDigit c = false) →
      ofBanner t = .error (.of (.noVersionNumber t))) ∧
    ∀ (product suffix : String) (a b c : UInt64), product ≠ "" → (∀ x ∈ product.toList, isBlank x = false) →
      (∀ x, suffix.toList.head? = some x → isDecimalDigit x = false) →
      ofBanner (product ++ " " ++ (release a b c).text ++ suffix) = .ok (release a b c) := by
  refine ⟨fun t v => ofBanner_eq_ok_iff, ?_, fun t runs => ofBanner_of_isBad, ?_, ?_, fun _ _ _ _ _ => ofBanner_text⟩
  · intro t none
    refine ofBanner_of_bannerRuns_nil ?_
    by_contra found
    obtain ⟨run, runs, found⟩ := List.exists_cons_of_ne_nil found
    exact none _ (isBanner_of_bannerRuns found)
  · intro t c first blank
    obtain ⟨cs, whole⟩ := List.head?_eq_some_iff.1 first
    exact ofBanner_of_bannerRuns_nil (by simp [whole, bannerRuns, blank])
  · intro t product blanks rest whole all blank apart none
    refine ofBanner_of_bannerRuns_nil ?_
    rw [whole]
    exact bannerRuns_eq_nil all blank apart none

/-- A fourth number counts as little as what is behind it. An Arabic three goes on with the number, which is then
none. -/
theorem version_of_four_numbers :
    let t := "PostgreSQL 1\u0663"
    ofBanner "EnterpriseDB 9.6.5.10 on x" = .ok (release 9 6 5) ∧
      ofBanner "\u2003PostgreSQL 10" = .error (.of (.noVersionNumber "\u2003PostgreSQL 10")) ∧
      ofBanner "PostgreSQL devel 9" = .error (.of (.noVersionNumber "PostgreSQL devel 9")) ∧
      ∃ e, ofBanner t = .error ((Failure.of (.integer e)).during (.readingComponent "1\u0663" t)) := by
  intro t
  obtain ⟨-, -, other, blank, none, text⟩ := reads_version_of_banner
  have plain {cs : List Char} (visible : cs.all (!isBlank ·) = true) : ∀ c ∈ cs, isBlank c = false := by
    simpa using visible
  have gap : ∀ c ∈ [' '], isBlank c = true := by simp [isBlank]
  refine ⟨?_, blank _ '\u2003' rfl (by decide), ?_, ?_⟩
  · have written : "EnterpriseDB" ++ " " ++ (release 9 6 5).text ++ ".10 on x" = "EnterpriseDB 9.6.5.10 on x" := by cbv
    rw [← written]
    exact text _ _ 9 6 5 (by decide) (plain (by decide)) fun _ head => by
      cases (show ".10 on x".toList.head? = some '.' from rfl).symm.trans head
      decide
  · refine none _ "PostgreSQL".toList [' '] ['d', 'e', 'v', 'e', 'l', ' ', '9'] (by decide) (plain (by decide)) gap
      (by simp) ?_
    rintro _ ⟨⟩
    decide
  · have written : t.toList = "PostgreSQL".toList ++ ([' '] ++ (['1', '\u0663'] ++ [])) := by decide
    have isRun : IsRun isDecimalDigit ['1', '\u0663'] [] := ⟨by decide, by simp; decide, by simp⟩
    have banner := IsBanner.mk (by decide : "PostgreSQL".toList ≠ []) (plain (by decide)) (List.cons_ne_nil _ _) gap
      isRun (.stop (by simp))
    rw [← written] at banner
    obtain ⟨digits, member, -, failed⟩ := other t _ banner ⟨_, List.mem_singleton_self _, .inl ⟨'\u0663', by decide⟩⟩
    cases List.mem_singleton.1 member
    exact failed

end PgMetrics.Version
