import PgMetrics.Proofs.Dsn.Credentials
import PgMetrics.Proofs.Text.Numerals
import PgMetrics.Proofs.Url.Respelling

namespace PgMetrics

theorem Text.mem_join {sep c : Char} {ps : List (List Char)} (member : c ∈ join [sep] ps) :
    c = sep ∨ ∃ p ∈ ps, c ∈ p := by
  induction ps with
  | nil => cases member
  | cons p ps ih =>
    cases ps with
    | nil => exact .inr ⟨p, List.mem_cons_self .., member⟩
    | cons q ps =>
      simp only [join, List.append_assoc, List.mem_append, List.mem_singleton] at member
      rcases member with first | sign | later
      · exact .inr ⟨p, List.mem_cons_self .., first⟩
      · exact .inl sign
      · obtain sign | ⟨x, among, inside⟩ := ih later
        · exact .inl sign
        · exact .inr ⟨x, List.mem_cons_of_mem _ among, inside⟩

theorem Percent.decodeText_of_not_mem {cs : List Char} (plain : '%' ∉ cs) : decodeText cs = some (String.ofList cs) := by
  rw [decodeText_eq_some_iff, bytesOf_eq, String.toList_ofList]
  induction cs with
  | nil => rfl
  | cons c cs ih =>
    simp only [List.mem_cons, not_or] at plain
    rw [decode_cons _ (Ne.symm plain.1), ih plain.2, List.flatMap_cons]

namespace ConnectionSettings

variable {ds : List Char} {n : Nat}

theorem port?_digits (digits : ∀ d ∈ ds, d.isDigit = true) (within : Nat.ofDigitChars 10 ds 0 ≤ Text.maxUInt16) :
    port? (String.ofList ds) = some (if ds = [] then 5432 else Nat.ofDigitChars 10 ds 0) := by
  unfold port?
  by_cases empty : ds = []
  · subst empty
    rfl
  · have number := Text.readNatural_eq_ok_iff.2 ⟨.plain empty digits, within⟩
    have some_ : (String.ofList ds).isEmpty = false := by simpa using empty
    rw [some_, if_neg (by decide), if_neg empty, String.toList_ofList, number]
    rfl

theorem port?_repr (within : n ≤ Text.maxUInt16) : port? n.repr = some n := by
  have number := Nat.ofDigitChars_ten_toDigits (n := n)
  rw [Nat.repr, port?_digits (fun d member => Nat.isDigit_of_mem_toDigits (by decide) (by decide) member)
    (by rwa [number]), if_neg Nat.toDigits_ne_nil, number]

/-- Without a comma there is one port. -/
theorem set_port {text : String} (alone : ',' ∉ text.toList) (made : port? text = some n) (c : ConnectionSettings) :
    c.set "port" text = some { c with ports := c.ports ++ [n] } := by
  have split : Text.split ',' text = [text] := by
    rw [Text.split, Text.pieces_of_not_mem alone, List.map_singleton, String.ofList_toList]
  change ((Text.split ',' text).mapM port?).map _ = _
  rw [split, List.mapM_cons, made]
  rfl

end ConnectionSettings

namespace Locator

open Percent

variable {c c' : ConnectionSettings} {cs ds : List Char}

/-- The settings with the port of a place. -/
def setPort (c : ConnectionSettings) (cs : List Char) : Option ConnectionSettings :=
  (decodeText cs).bind (c.set "port")

theorem setPort_digits (digits : ∀ d ∈ ds, d.isDigit = true) (within : Nat.ofDigitChars 10 ds 0 ≤ Text.maxUInt16)
    (c : ConnectionSettings) : setPort c ds =
      some { c with ports := c.ports ++ [if ds = [] then 5432 else Nat.ofDigitChars 10 ds 0] } := by
  have apart {x : Char} (none_ : x.isDigit = false) : x ∉ ds := fun member => by simp [digits x member] at none_
  rw [setPort, decodeText_of_not_mem (apart (by decide)), Option.bind_some]
  refine ConnectionSettings.set_port ?_ (ConnectionSettings.port?_digits digits within) c
  rw [String.toList_ofList]
  exact apart (by decide)

theorem setPort_toDigits {n : Nat} (within : n ≤ Text.maxUInt16) (c : ConnectionSettings) :
    setPort c (Nat.toDigits 10 n) = some { c with ports := c.ports ++ [n] } := by
  have number := Nat.ofDigitChars_ten_toDigits (n := n)
  rw [setPort_digits (fun d member => Nat.isDigit_of_mem_toDigits (by decide) (by decide) member)
    (by rwa [number]), if_neg Nat.toDigits_ne_nil, number]

theorem mapM_eq_none {α β : Type} {f : α → Option β} {as : List α} {a : α} (member : a ∈ as) (none_ : f a = none) :
    as.mapM f = none := by
  induction as with
  | nil => cases member
  | cons b as ih =>
    rw [List.mapM_cons]
    obtain rfl | later := List.mem_cons.1 member
    · rw [none_]
      rfl
    · rw [ih later]
      cases f b <;> rfl

/-- Ports are written with digits, signs and commas. -/
theorem mem_of_set_port {text : String} (made : c.set "port" text = some c') {d : Char} (inside : d ∈ text.toList) :
    d = ',' ∨ d = '+' ∨ d.isDigit = true := by
  rw [← Text.join_pieces ',' text.toList] at inside
  obtain comma | ⟨p, among, inPiece⟩ := Text.mem_join inside
  · exact .inl comma
  right
  have some_ : ConnectionSettings.port? (String.ofList p) ≠ none := by
    intro none_
    have refused : c.set "port" text = none :=
      Option.map_eq_none_iff.2 (mapM_eq_none (List.mem_map_of_mem among) none_)
    rw [refused] at made
    cases made
  obtain ⟨n, read⟩ := Option.ne_none_iff_exists'.1 some_
  have full : (String.ofList p).isEmpty = false := by
    simpa using List.ne_nil_of_mem inPiece
  rw [ConnectionSettings.port?, full, if_neg (by decide), String.toList_ofList] at read
  cases number : Text.readNatural Text.maxUInt16 p with
  | error e =>
    rw [number] at read
    cases read
  | ok m => exact (Text.readNatural_eq_ok_iff.1 number).1.mem inPiece

/-- No port has a backslash in it. -/
theorem setPort_eq_none (member : '\\' ∈ cs) (c : ConnectionSettings) : setPort c cs = none := by
  rw [setPort, Option.bind_eq_none_iff]
  intro text read
  by_contra some_
  obtain ⟨c', made⟩ := Option.ne_none_iff_exists'.1 some_
  have byte : 0x5C ∈ decode cs :=
    mem_decode (by decide) (by decide) member (by decide : 0x5C ∈ String.utf8EncodeChar '\\')
  rw [decodeText_eq_some_iff.1 read, bytesOf_eq, List.mem_flatMap] at byte
  obtain ⟨d, inside, byte⟩ := byte
  have table : ∀ n : Fin 58, 0x5C ∉ String.utf8EncodeChar (Char.ofNat n) := by decide
  have low : d.toNat < 58 := by
    obtain rfl | rfl | digit := mem_of_set_port made inside
    · decide
    · decide
    · exact Nat.lt_succ_of_le (Char.isDigit_iff_toNat.1 digit).2
  have absent := table ⟨d.toNat, low⟩
  simp only [Char.ofNat_toNat] at absent
  exact absent byte

/-- A text is the host of its place whatever port is behind it. -/
def IsHost (written host : List Char) : Prop :=
  ∀ port, splitPort (written ++ Url.optional ':' port) = some (host, port.getD "5432".toList)

theorem isHost_of_plain (colon : ':' ∉ cs) (bracket : cs.head? ≠ some '[') : IsHost cs cs := by
  intro port
  have other (rest : List Char) : cs ++ Url.optional ':' port ≠ '[' :: rest := by
    intro begins
    cases cs with
    | nil => cases port <;> cases begins
    | cons d ds =>
      obtain ⟨rfl, -⟩ := List.cons.inj begins
      exact bracket rfl
  unfold splitPort
  split
  · rename_i begins
    exact absurd begins (other _)
  · rw [upTo_optional colon]
    cases port <;> rfl

theorem isHost_of_brackets (apart : ']' ∉ cs) : IsHost ('[' :: cs ++ [']']) cs := by
  intro port
  rw [List.cons_append, List.cons_append, List.append_assoc, List.singleton_append, splitPort, upTo_append apart]
  cases port <;> rfl

theorem addPlace_of_isHost {written host : List Char} (isHost : IsHost written host) (c : ConnectionSettings)
    (port : Option (List Char)) :
    addPlace c (written ++ Url.optional ':' port) = (addHost c host).bind (setPort · (port.getD "5432".toList)) := by
  rw [addPlace, isHost port]
  dsimp only
  cases addHost c host with
  | none => rfl
  | some c =>
    rw [Option.bind_some, setPort]
    cases decodeText (port.getD "5432".toList) <;> rfl

/-- Two texts are the same host, whatever port is behind them. -/
def SameHost (written written' : List Char) : Prop :=
  ∃ host host', IsHost written host ∧ IsHost written' host' ∧ ∀ c, addHost c host' = addHost c host

/-- Two ports are the same, where none is the usual one. -/
def SamePort (port port' : Option (List Char)) : Prop :=
  ∀ c, setPort c (port'.getD "5432".toList) = setPort c (port.getD "5432".toList)

/-- The digits of a port say the same as the number they are, and no digits the same as no port. -/
theorem samePort_digits (digits : ∀ d ∈ ds, d.isDigit = true) (within : Nat.ofDigitChars 10 ds 0 ≤ Text.maxUInt16) :
    SamePort (some ds) ((if ds ≠ [] then some (Nat.ofDigitChars 10 ds 0) else none).map (Nat.toDigits 10)) := by
  intro c
  have usual : Nat.toDigits 10 5432 = "5432".toList := by decide
  rw [Option.getD_some, setPort_digits digits within]
  by_cases none_ : ds = []
  · rw [if_pos none_, if_neg (not_not.2 none_), Option.map_none, Option.getD_none, ← usual, setPort_toDigits (by decide)]
  · rw [if_neg none_, if_pos none_, Option.map_some, Option.getD_some, setPort_toDigits within]

theorem addPlace_of_same {host host' : List Char} {port port' : Option (List Char)} (hosts : SameHost host host')
    (ports : SamePort port port') (c : ConnectionSettings) :
    addPlace c (host' ++ Url.optional ':' port') = addPlace c (host ++ Url.optional ':' port) := by
  obtain ⟨read, read', isHost, isHost', same⟩ := hosts
  rw [addPlace_of_isHost isHost, addPlace_of_isHost isHost', same]
  exact congrArg _ (funext ports)

/-- Places say the same as others one by one. -/
theorem addPlaces_join {write : List Char → List Char} {port port' : Option (List Char)} {ps : List (List Char)}
    (ne : ps ≠ []) (apart : ∀ p ∈ ps, ',' ∉ p ∧ ',' ∉ write p) (noComma : ',' ∉ Url.optional ':' port)
    (noComma' : ',' ∉ Url.optional ':' port') (hosts : ∀ p ∈ ps, SameHost p (write p)) (ports : SamePort port port')
    (c : ConnectionSettings) :
    addPlaces c (Text.pieces ',' (Text.join [','] (ps.map write) ++ Url.optional ':' port')) =
      addPlaces c (Text.pieces ',' (Text.join [','] ps ++ Url.optional ':' port)) := by
  induction ps generalizing c with
  | nil => exact absurd rfl ne
  | cons p ps ih =>
    obtain ⟨⟨comma, comma'⟩, apart⟩ := List.forall_mem_cons.1 apart
    obtain ⟨host, hosts⟩ := List.forall_mem_cons.1 hosts
    cases ps with
    | nil =>
      rw [List.map_singleton, Text.join, Text.join, Text.pieces_of_not_mem (by simp [comma', noComma']),
        Text.pieces_of_not_mem (by simp [comma, noComma])]
      simp only [addPlaces, addPlace_of_same host ports]
    | cons q ps =>
      have first := addPlace_of_same host (fun _ => rfl : SamePort none none) c
      have later := ih (by simp) apart hosts
      simp only [Url.optional, List.append_nil] at first
      rw [List.map_cons] at later
      rw [List.map_cons, List.map_cons, Text.join_cons_cons, Text.join_cons_cons, List.append_assoc, List.append_assoc,
        List.cons_append, List.cons_append, Text.pieces_append, Text.pieces_append, Text.pieces_of_not_mem comma,
        Text.pieces_of_not_mem comma', List.singleton_append, List.singleton_append, addPlaces, addPlaces, first]
      cases addPlace c p with
      | none => rfl
      | some c => exact later c

theorem readHosts_join {write : List Char → List Char} {port port' : Option (List Char)} {ps : List (List Char)}
    (ne : ps ≠ []) (apart : ∀ p ∈ ps, ',' ∉ p ∧ ',' ∉ write p) (noComma : ',' ∉ Url.optional ':' port)
    (noComma' : ',' ∉ Url.optional ':' port') (hosts : ∀ p ∈ ps, SameHost p (write p)) (ports : SamePort port port')
    (empty : Text.join [','] (ps.map write) ++ Url.optional ':' port' = [] ↔
      Text.join [','] ps ++ Url.optional ':' port = [])
    (c : ConnectionSettings) :
    readHosts c (Text.join [','] (ps.map write) ++ Url.optional ':' port') =
      readHosts c (Text.join [','] ps ++ Url.optional ':' port) := by
  rw [readHosts, readHosts, addPlaces_join ne apart noComma noComma' hosts ports]
  simp only [List.isEmpty_iff, empty]

theorem mem_port {port : Option Nat} {x : Char} (member : x ∈ Url.optional ':' (port.map (Nat.toDigits 10))) :
    x = ':' ∨ x.isDigit = true := by
  cases port with
  | none => cases member
  | some n => exact (List.mem_cons.1 member).imp_right (Nat.isDigit_of_mem_toDigits (by decide) (by decide))

/-- A port with a backslash behind its digits is refused. -/
theorem addPlaces_backslash {ps : List (List Char)} {digits : List Char} (ne : ps ≠ []) (apart : ∀ p ∈ ps, ',' ∉ p)
    (noComma : ',' ∉ digits) (hosts : ∀ p ∈ ps, ∃ host, IsHost p host) (rest : List Char) (c : ConnectionSettings) :
    addPlaces c (Text.pieces ',' (Text.join [','] ps ++ ':' :: (digits ++ '\\' :: rest))) = none := by
  induction ps generalizing c with
  | nil => exact absurd rfl ne
  | cons p ps ih =>
    obtain ⟨comma, apart⟩ := List.forall_mem_cons.1 apart
    obtain ⟨⟨host, isHost⟩, hosts⟩ := List.forall_mem_cons.1 hosts
    cases ps with
    | nil =>
      obtain ⟨q, qs, cut⟩ := List.exists_cons_of_ne_nil (Text.pieces_ne_nil ',' rest)
      have behind : Text.pieces ',' ('\\' :: rest) = ('\\' :: q) :: qs := by simp [Text.pieces, cut]
      have places : Text.pieces ',' (p ++ ':' :: (digits ++ '\\' :: rest)) =
          (p ++ Url.optional ':' (some (digits ++ '\\' :: q))) :: qs := by
        have whole := @Text.pieces_append_of_not_mem _ (p ++ ':' :: digits) _ _ _ (by simp [comma, noComma]) behind
        simpa [Url.optional] using whole
      have refused : addPlace c (p ++ Url.optional ':' (some (digits ++ '\\' :: q))) = none := by
        rw [addPlace_of_isHost isHost, Option.bind_eq_none_iff]
        exact fun c' _ => setPort_eq_none (by simp) c'
      rw [Text.join, places, addPlaces, refused]
    | cons q ps =>
      rw [Text.join_cons_cons, List.append_assoc, List.cons_append, Text.pieces_append, Text.pieces_of_not_mem comma,
        List.singleton_append, addPlaces]
      cases addPlace c p with
      | none => rfl
      | some c => exact ih (by simp) apart hosts c

end Locator

end PgMetrics
