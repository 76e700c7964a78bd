import PgMetrics.Text.Pieces
import PgMetrics.Url.Percent

namespace PgMetrics

inductive Address where
  | v4 (bytes : List Nat)
  | v6 (groups : List Nat)
  deriving DecidableEq, Repr

namespace Address

/-- A number up to 255 without superfluous zeros. -/
def byte? (cs : List Char) : Option Nat :=
  if cs.isEmpty || 3 < cs.length || !cs.all Char.isDigit || (1 < cs.length && cs.head? == some '0')
  then none
  else
    let n := cs.foldl (fun n c => n * 10 + (c.toNat - 48)) 0
    if n ≤ 255 then some n else none

def readV4 (cs : List Char) : Option (List Nat) :=
  match Text.pieces '.' cs with
  | [a, b, c, d] => [a, b, c, d].mapM byte?
  | _ => none

/-- One to four digits of base sixteen. -/
def group? (cs : List Char) : Option Nat :=
  if cs.isEmpty || 4 < cs.length then none
  else (cs.mapM Percent.hexValue?).map fun ds => ds.foldl (fun n d => n * 16 + d) 0

/-- Groups, of which the last two may be a version 4 address where that is allowed. -/
def groups? (v4Allowed : Bool) : List (List Char) → Option (List Nat)
  | [] => some []
  | [p] =>
    match group? p with
    | some g => some [g]
    | none =>
      if v4Allowed then
        match readV4 p with
        | some [a, b, c, d] => some [a * 256 + b, c * 256 + d]
        | _ => none
      else none
  | p :: ps =>
    match group? p, groups? v4Allowed ps with
    | some g, some gs => some (g :: gs)
    | _, _ => none

/-- The text before and behind the first pair of colons. -/
def splitAtGap : List Char → Option (List Char × List Char)
  | [] => none
  | c :: cs =>
    match c, cs with
    | ':', ':' :: rest => some ([], rest)
    | c, cs => (splitAtGap cs).map fun (before, behind) => (c :: before, behind)

def part? (v4Allowed : Bool) : List Char → Option (List Nat)
  | [] => some []
  | cs => groups? v4Allowed (Text.pieces ':' cs)

/-- The eight groups of a version 6 address. A gap stands for at least one group. -/
def readV6 (cs : List Char) : Option (List Nat) :=
  match splitAtGap cs with
  | none =>
    match groups? true (Text.pieces ':' cs) with
    | some gs => if gs.length = 8 then some gs else none
    | none => none
  | some (before, behind) =>
    match part? false before, part? true behind with
    | some xs, some ys =>
      if xs.length + ys.length ≤ 7 then
        some (xs ++ List.replicate (8 - xs.length - ys.length) 0 ++ ys)
      else none
    | _, _ => none

def read? (cs : List Char) : Option Address :=
  match readV4 cs with
  | some bytes => some (.v4 bytes)
  | none => (readV6 cs).map .v6

/-- Length and start of the first longest run of zeros, given the best so far and the run that is open. -/
def longestRun (best : Nat × Nat) (start length here : Nat) : List Nat → Nat × Nat
  | [] => best
  | g :: gs =>
    if g = 0 then
      let start := if length = 0 then here else start
      let best := if best.1 < length + 1 then (length + 1, start) else best
      longestRun best start (length + 1) (here + 1) gs
    else longestRun best 0 0 (here + 1) gs

def writeGroups (gs : List Nat) : List Char :=
  Text.join [':'] (gs.map (Nat.toDigits 16))

/-- The shortest text of eight groups: the first longest run of two zeros or more is left out. -/
def writeV6 (gs : List Nat) : List Char :=
  let (length, start) := longestRun (0, 0) 0 0 0 gs
  if length < 2 then writeGroups gs
  else writeGroups (gs.take start) ++ ':' :: ':' :: writeGroups (gs.drop (start + length))

example : (readV6 "1:0:0:2::1.2.3.4".toList).map writeV6 = some "1::2:0:0:102:304".toList := by
  decide +kernel
example : (readV6 "::".toList).map writeV6 = some "::".toList := by decide +kernel
example : readV6 "1:2:3:4:5:6:7::8".toList = none := by decide +kernel

end Address

end PgMetrics
