import Mathlib.Data.List.Flatten
import PgMetrics.Proofs.Dsn.Database
import PgMetrics.Proofs.Url.Respelling

namespace PgMetrics

theorem Percent.encode_join (encoded : Char → Bool) {sep : Char} (plain : encoded sep = false)
    (ps : List (List Char)) :
    encode encoded (Text.join [sep] ps) = Text.join [sep] (ps.map (encode encoded)) := by
  induction ps with
  | nil => rfl
  | cons p ps ih =>
    cases ps with
    | nil => rfl
    | cons q ps =>
      have separator : encodeChar encoded sep = [sep] := by rw [encodeChar, if_neg (by simp [plain])]
      rw [Text.join_cons_cons, encode, List.flatMap_append, List.flatMap_cons, separator, ← encode, ← encode, ih]
      simp [Text.join]

/-- No two digits reach over a character that is none. -/
theorem Percent.decode_append {c : Char} (digit : hexValue? c = none) (as bs : List Char) :
    decode (as ++ c :: bs) = decode as ++ decode (c :: bs) := by
  fun_induction decode as with
  | case1 => rfl
  | case2 high low rest b digits ih =>
    simp only [List.cons_append]
    rw [decode, digits, ih]
  | case3 high low rest digits ih =>
    simp only [List.cons_append] at ih ⊢
    rw [decode, digits, ih, List.append_assoc]
  | case4 d cs other ih =>
    rw [List.cons_append, List.append_assoc, ← ih]
    by_cases sign : d = '%'
    · subst sign
      refine decode_percent ?_
      rintro high low rest begins
      obtain _ | ⟨x, _ | ⟨y, more⟩⟩ := cs
      · obtain ⟨rfl, -⟩ := List.cons.inj begins
        simp [byte?, digit]
      · obtain ⟨rfl, behind⟩ := List.cons.inj begins
        obtain ⟨rfl, -⟩ := List.cons.inj behind
        unfold byte?
        rw [digit]
        split <;> first | rfl | contradiction
      · exact absurd rfl (other x y more rfl)
    · exact decode_cons _ sign

namespace Url

/-- A segment that does not count as dots. -/
def IsPlain (segment : List Char) : Prop :=
  plainDots segment ≠ ['.'] ∧ plainDots segment ≠ ['.', '.']

theorem writePath_resolve {above segments : List (List Char)} (ne : segments ≠ [])
    (plain : ∀ s ∈ segments, IsPlain s) :
    writePath (resolve above segments).1 (resolve above segments).2 =
      '/' :: above.reverse.flatMap (· ++ ['/']) ++ Text.join ['/'] segments := by
  induction segments generalizing above with
  | nil => exact absurd rfl ne
  | cons s segments ih =>
    obtain ⟨one, two⟩ := plain s (List.mem_cons_self ..)
    cases segments with
    | nil =>
      rw [resolve, if_neg two, if_neg one]
      rfl
    | cons s' segments =>
      rw [resolve, if_neg two, if_neg one, ih (by simp) fun x member => plain x (List.mem_cons_of_mem _ member)]
      · simp [Text.join]
      · rintro ⟨⟩

/-- What counts as dots stands for dots. -/
theorem decode_of_plainDots {cs : List Char} (dots : ∀ c ∈ plainDots cs, c = '.') :
    Percent.decode cs = List.replicate (plainDots cs).length 0x2E := by
  fun_induction plainDots cs with
  | case1 => rfl
  | case2 e rest dot ih =>
    have byte : Percent.byte? '2' e = some 0x2E := by
      obtain rfl | rfl := dot <;> decide
    rw [Percent.decode, byte, ih fun c member => dots c (List.mem_cons_of_mem _ member)]
    rfl
  | case3 e rest other ih => cases dots '%' (List.mem_cons_self ..)
  | case4 c cs other ih =>
    obtain rfl := dots c (List.mem_cons_self ..)
    rw [Percent.decode_cons _ (by decide), ih fun c member => dots c (List.mem_cons_of_mem _ member)]
    rfl

/-- The bytes that a path in parts stands for, behind its first slash. -/
def weight (above : List (List Char)) (last : List Char) : Nat :=
  above.foldr (fun s n => (Percent.decode s).length + 1 + n) 0 + (Percent.decode last).length

/-- A segment before a slash weighs as much among the directories above. -/
theorem weight_append (above : List (List Char)) (s last : List Char) :
    weight above (s ++ '/' :: last) = weight (s :: above) last := by
  have slash : (String.utf8EncodeChar '/').length = 1 := by decide
  rw [weight, weight, Percent.decode_append (by decide), Percent.decode_cons _ (by decide), List.foldr_cons,
    List.length_append, List.length_append, slash]
  omega

theorem weight_cons (s : List Char) (above : List (List Char)) (last : List Char) :
    weight (s :: above) last = (Percent.decode s).length + 1 + weight above last := by
  rw [weight, weight, List.foldr_cons, Nat.add_assoc]

theorem decode_writePath (above : List (List Char)) (last : List Char) :
    (Percent.decode (above.reverse.flatMap (· ++ ['/']) ++ last)).length = weight above last := by
  induction above generalizing last with
  | nil => simp [weight]
  | cons s above ih =>
    have split : (s :: above).reverse.flatMap (· ++ ['/']) ++ last =
        above.reverse.flatMap (· ++ ['/']) ++ (s ++ '/' :: last) := by simp
    rw [split, ih, weight_append]

theorem weight_parent_le (above : List (List Char)) (last : List Char) :
    weight (parent above) last ≤ weight above last := by
  cases above with
  | nil => exact Nat.le_refl _
  | cons s above =>
    rw [parent]
    split
    · exact Nat.le_refl _
    · rw [weight_cons]
      omega

/-- Segments of dots make a path lighter. -/
theorem weight_resolve {above segments : List (List Char)} (ne : segments ≠ []) :
    weight (resolve above segments).1 (resolve above segments).2 ≤ weight above (Text.join ['/'] segments) ∧
      (weight (resolve above segments).1 (resolve above segments).2 = weight above (Text.join ['/'] segments) →
        ∀ s ∈ segments, IsPlain s) := by
  have dotted {s ds : List Char} (above : List (List Char)) (same : plainDots s = ds) (dots : ∀ c ∈ ds, c = '.') :
      weight above s = weight above [] + ds.length := by
    rw [weight, weight, decode_of_plainDots (same ▸ dots), List.length_replicate, same]
    rfl
  induction segments generalizing above with
  | nil => exact absurd rfl ne
  | cons s segments ih =>
    have lighter := weight_parent_le above
    cases segments with
    | nil =>
      rw [resolve, Text.join]
      split
      · rename_i dots
        have less := lighter []
        have heavier : weight above s = weight above [] + 2 := dotted above dots (by simp)
        dsimp only
        exact ⟨by omega, fun same => by omega⟩
      · rename_i notTwo
        split
        · rename_i dots
          have heavier : weight above s = weight above [] + 1 := dotted above dots (by simp)
          dsimp only
          exact ⟨by omega, fun same => by omega⟩
        · rename_i notOne
          exact ⟨Nat.le_refl _, fun _ x member => List.mem_singleton.1 member ▸ ⟨notOne, notTwo⟩⟩
    | cons s' segments =>
      have heavier := weight_cons s above (Text.join ['/'] (s' :: segments))
      rw [Text.join_cons_cons, weight_append]
      unfold resolve
      split
      · have later := (@ih (parent above) (by simp)).1
        have less := lighter (Text.join ['/'] (s' :: segments))
        exact ⟨by omega, fun same => by omega⟩
      · rename_i notTwo
        split
        · have later := (@ih above (by simp)).1
          exact ⟨by omega, fun same => by omega⟩
        · rename_i notOne
          obtain ⟨less, plain⟩ := @ih (s :: above) (by simp)
          exact ⟨less, fun same => List.forall_mem_cons.2 ⟨⟨notOne, notTwo⟩, plain same⟩⟩

theorem mem_resolve {above segments : List (List Char)} :
    ∀ s ∈ (resolve above segments).2 :: (resolve above segments).1, s = [] ∨ s ∈ above ∨ s ∈ segments := by
  have inside {above : List (List Char)} {s : List Char} (member : s ∈ parent above) : s ∈ above := by
    cases above with
    | nil => cases member
    | cons x above =>
      rw [parent] at member
      split at member
      · exact member
      · exact List.mem_cons_of_mem _ member
  fun_induction resolve above segments with
  | case1 above => exact List.forall_mem_cons.2 ⟨.inl rfl, fun s member => .inr (.inl member)⟩
  | case2 above d two => exact List.forall_mem_cons.2 ⟨.inl rfl, fun s member => .inr (.inl (inside member))⟩
  | case3 above d notTwo one => exact List.forall_mem_cons.2 ⟨.inl rfl, fun s member => .inr (.inl member)⟩
  | case4 above d notTwo notOne =>
    exact List.forall_mem_cons.2 ⟨.inr (.inr (List.mem_singleton_self d)), fun s member => .inr (.inl member)⟩
  | case5 above d segments more two ih =>
    exact fun s member => (ih s member).imp_right (Or.imp inside (List.mem_cons_of_mem d))
  | case6 above d segments more notTwo one ih =>
    exact fun s member => (ih s member).imp_right (Or.imp_right (List.mem_cons_of_mem d))
  | case7 above d segments more notTwo notOne ih =>
    intro s member
    obtain empty | first | later := ih s member
    · exact .inl empty
    · obtain rfl | before := List.mem_cons.1 first
      · exact .inr (.inr (List.mem_cons_self ..))
      · exact .inr (.inl before)
    · exact .inr (.inr (List.mem_cons_of_mem d later))

/-- A path has nothing in it but slashes, what its text has in it, and the signs that bytes are written with. -/
theorem mem_pathOf {cs : List Char} {c : Char} (member : c ∈ pathOf cs) :
    c = '/' ∨ (c ∈ cs ∧ Percent.pathSet c = false) ∨ c ∈ "%0123456789ABCDEF".toList := by
  let segments := (Text.pieces '/' (cs.filter (!isDropped ·))).map (Percent.encode Percent.pathSet)
  have parts := @mem_resolve [] segments
  have segment {s : List Char} (inside : c ∈ s) (among : s = [] ∨ s ∈ [] ∨ s ∈ segments) :
      (c ∈ cs ∧ Percent.pathSet c = false) ∨ c ∈ "%0123456789ABCDEF".toList := by
    obtain rfl | among | among := among
    · cases inside
    · cases among
    · obtain ⟨p, piece, rfl⟩ := List.mem_map.1 among
      obtain ⟨inPiece, plain⟩ | sign := Percent.mem_encode inside
      · exact .inl ⟨(List.mem_filter.1 (Text.mem_of_mem_pieces piece inPiece)).1, plain⟩
      · exact .inr sign
  change c ∈ '/' :: ((resolve [] segments).1.reverse.flatMap (· ++ ['/']) ++ (resolve [] segments).2) at member
  simp only [List.mem_cons, List.mem_append, List.mem_flatMap, List.mem_reverse] at member
  rcases member with slash | ⟨s, above, inside | slash | ⟨⟨⟩⟩⟩ | last
  · exact .inl slash
  · exact .inr (segment inside (parts s (List.mem_cons_of_mem _ above)))
  · exact .inl slash
  · exact .inr (segment last (parts _ (List.mem_cons_self ..)))

/-- A name that stands in a path as it is. -/
structure IsKept (name : List Char) : Prop where
  ne : name ≠ []
  counts : ∀ c ∈ name, isDropped c = false
  literal_ : Percent.decode name = name.flatMap String.utf8EncodeChar
  segments : ∀ s ∈ Text.pieces '/' name, s ≠ ['.'] ∧ s ≠ ['.', '.']

theorem decode_encode_path (cs : List Char) :
    Percent.decode (Percent.encode Percent.pathSet cs) = Percent.decode cs :=
  (@Percent.Respells.of_encode [] _ (by simp) (fun _ => Percent.userSet_of_pathSet) cs).decode_eq

theorem map_encode_pieces (name : List Char) :
    Text.join ['/'] ((Text.pieces '/' name).map (Percent.encode Percent.pathSet)) =
      Percent.encode Percent.pathSet name := by
  rw [← Percent.encode_join _ (by decide), Text.join_pieces]

/-- Without escapes in a text there are none in its pieces. -/
theorem decode_of_mem_pieces {ps : List (List Char)} {s : List Char}
    (literal_ : Percent.decode (Text.join ['/'] ps) = (Text.join ['/'] ps).flatMap String.utf8EncodeChar)
    (member : s ∈ ps) : Percent.decode s = s.flatMap String.utf8EncodeChar := by
  induction ps with
  | nil => cases member
  | cons p ps ih =>
    cases ps with
    | nil =>
      obtain rfl := List.mem_singleton.1 member
      exact literal_
    | cons q ps =>
      rw [Text.join_cons_cons, Percent.decode_append (by decide), Percent.decode_cons _ (by decide), List.flatMap_append,
        List.flatMap_cons] at literal_
      -- No part gets longer by reading it, so none gets shorter.
      obtain ⟨le, eq_⟩ := Percent.decode_length_le p
      obtain ⟨le', eq_'⟩ := Percent.decode_length_le (Text.join ['/'] (q :: ps))
      have total := congrArg List.length literal_
      simp only [List.length_append] at total
      obtain rfl | later := List.mem_cons.1 member
      · exact eq_ (by omega)
      · exact ih (eq_' (by omega)) later

theorem IsKept.isPlain {name : List Char} (kept : IsKept name) {s : List Char} (member : s ∈ Text.pieces '/' name) :
    IsPlain (Percent.encode Percent.pathSet s) := by
  have literal_ : Percent.decode s = s.flatMap String.utf8EncodeChar :=
    decode_of_mem_pieces (by rw [Text.join_pieces, kept.literal_]) member
  obtain ⟨notOne, notTwo⟩ := kept.segments s member
  have dots {ds : List Char} (same : plainDots (Percent.encode Percent.pathSet s) = ds) (all : ∀ c ∈ ds, c = '.')
      (bytes : List.replicate ds.length 0x2E = ds.flatMap String.utf8EncodeChar) : s = ds := by
    have read := decode_of_plainDots (same ▸ all)
    rw [decode_encode_path, literal_, same, bytes] at read
    exact Percent.flatMap_utf8EncodeChar_injective read
  exact ⟨fun same => notOne (dots same (by simp) (by decide)), fun same => notTwo (dots same (by simp) (by decide))⟩

theorem pathOf_of_isKept {name : List Char} (kept : IsKept name) :
    pathOf name = '/' :: Percent.encode Percent.pathSet name := by
  have all : name.filter (!isDropped ·) = name := List.filter_eq_self.2 fun c member => by simp [kept.counts c member]
  have plain : ∀ s ∈ (Text.pieces '/' name).map (Percent.encode Percent.pathSet), IsPlain s := by
    rw [List.forall_mem_map]
    exact fun s => kept.isPlain
  have segments : (Text.pieces '/' name).map (Percent.encode Percent.pathSet) ≠ [] := by
    simpa using Text.pieces_ne_nil '/' name
  unfold pathOf
  dsimp only
  rw [all, writePath_resolve segments plain, map_encode_pieces]
  rfl

/-- Every character has bytes. -/
theorem forall_of_filter_le {keep : Char → Bool} {cs : List Char}
    (le : (cs.flatMap String.utf8EncodeChar).length ≤ ((cs.filter keep).flatMap String.utf8EncodeChar).length) :
    ∀ c ∈ cs, keep c = true := by
  induction cs with
  | nil => simp
  | cons c cs ih =>
    have positive : 0 < (String.utf8EncodeChar c).length := by
      rw [String.length_utf8EncodeChar]
      exact c.utf8Size_pos
    have fewer : ((cs.filter keep).flatMap String.utf8EncodeChar).length ≤ (cs.flatMap String.utf8EncodeChar).length :=
      (List.filter_sublist.flatMap _).length_le
    by_cases kept : keep c = true
    · rw [List.filter_cons_of_pos kept, List.flatMap_cons, List.flatMap_cons, List.length_append, List.length_append] at le
      exact List.forall_mem_cons.2 ⟨kept, ih (by omega)⟩
    · rw [List.filter_cons_of_neg kept, List.flatMap_cons, List.length_append] at le
      omega

/-- A path stands for as many bytes as the name only if nothing in the name counts for the path. -/
theorem isKept_of_decode_pathOf {name path : List Char} (ne : name ≠ []) (written : pathOf name = '/' :: path)
    (read : Percent.decode path = name.flatMap String.utf8EncodeChar) : IsKept name := by
  let segments := (Text.pieces '/' (name.filter (!isDropped ·))).map (Percent.encode Percent.pathSet)
  have some_ : segments ≠ [] := by simpa [segments] using Text.pieces_ne_nil '/' (name.filter (!isDropped ·))
  have whole : Text.join ['/'] segments = Percent.encode Percent.pathSet (name.filter (!isDropped ·)) :=
    map_encode_pieces _
  obtain ⟨lighter, plain⟩ := @weight_resolve [] segments some_
  have bytes : (name.flatMap String.utf8EncodeChar).length =
      weight (resolve [] segments).1 (resolve [] segments).2 := by
    have parts : path = (resolve [] segments).1.reverse.flatMap (· ++ ['/']) ++ (resolve [] segments).2 :=
      (List.cons.inj written).2.symm
    rw [← read, parts, decode_writePath]
  have heavy : weight [] (Text.join ['/'] segments) = (Percent.decode (name.filter (!isDropped ·))).length := by
    rw [whole, weight, decode_encode_path]
    simp
  obtain ⟨shorter, literal_⟩ := Percent.decode_length_le (name.filter (!isDropped ·))
  have counts : ∀ c ∈ name, (!isDropped c) = true := forall_of_filter_le (by omega)
  have all : name.filter (!isDropped ·) = name := List.filter_eq_self.2 counts
  rw [all] at shorter literal_ heavy
  refine ⟨ne, fun c member => by simpa using counts c member, literal_ (by omega), ?_⟩
  intro s member
  obtain ⟨notOne, notTwo⟩ := plain (by omega) (Percent.encode Percent.pathSet s) (by
    rw [← all] at member
    exact List.mem_map_of_mem member)
  constructor <;> rintro rfl
  · exact notOne (by decide)
  · exact notTwo (by decide)

/-- What is read from the path of a name is the name exactly if it is kept. -/
theorem readDatabase_pathOf_iff {c : ConnectionSettings} {name : String} (new : c.dbname ≠ some name) :
    Locator.readDatabase c (pathOf name.toList) = some (c.withDatabase name) ↔ IsKept name.toList := by
  constructor
  · intro read
    obtain ⟨path, written⟩ : ∃ path, pathOf name.toList = '/' :: path := ⟨_, rfl⟩
    rw [written, Locator.readDatabase] at read
    split at read
    · exact absurd (congrArg ConnectionSettings.dbname (Option.some.inj read)) new
    · rename_i some_
      obtain ⟨name', text, same⟩ := Option.map_eq_some_iff.1 read
      obtain rfl : name' = name := Option.some.inj (congrArg ConnectionSettings.dbname same)
      rw [Percent.decodeText_eq_some_iff, Percent.bytesOf_eq] at text
      refine isKept_of_decode_pathOf ?_ written text
      intro empty
      rw [empty] at written
      obtain ⟨-, rfl⟩ := List.cons.inj written
      exact some_ rfl
  · intro kept
    have respells := @Percent.Respells.of_encode [] _ (by simp) (fun _ => Percent.userSet_of_pathSet) name.toList
    have some_ : Percent.encode Percent.pathSet name.toList ≠ [] := fun empty => kept.ne (respells.eq_nil_iff.1 empty)
    have text : Percent.decodeText (Percent.encode Percent.pathSet name.toList) = some name := by
      rw [Percent.decodeText_eq_some_iff, respells.decode_eq, kept.literal_, Percent.bytesOf_eq]
    rw [pathOf_of_isKept kept, Locator.readDatabase, if_neg (by simpa using some_), text]
    rfl

end Url

end PgMetrics
