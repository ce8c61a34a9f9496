import Chip8.Document.Value

/-!
The order in which the numbers of a set are shown. Every member takes a place in a table, found from its
remainder by a prime, and the order is that of the places. Equal numbers have the same remainder, whether
they are whole numbers, truth values or numbers with a point. The main statement says that the order is
one of the same members.
-/

namespace Chip8

/-- The prime, one below the 61st power of two. -/
def residueModulus : Nat := 0x1fffffffffffffff

/-- The remainder of a number times a power of two. As the 61st power leaves one, all others follow from
those below it. -/
def residue (number : Nat) (exponent : Int) : Nat :=
  (number <<< (exponent % 61).toNat) % residueModulus

/-- A remainder with a sign as 64 bits. Minus one is not told apart from minus two. -/
def signedResidue (negative : Bool) (residue : Nat) : Nat :=
  if negative && residue != 0 then 0x10000000000000000 - max 2 residue else residue

/-- The remainder of a double. Infinity has a fixed one. -/
def floatResidue? (number : Float) : Option Nat :=
  let bits := number.toBits.toNat
  let field := (bits >>> 52) % 2048
  let fraction := bits % (1 <<< 52)
  let sized := signedResidue (bits >>> 63 = 1)
  if field = 2047 then if fraction = 0 then some (sized 314159) else none
  else
    let mantissa := if field = 0 then fraction else fraction + (1 <<< 52)
    some (sized (residue mantissa ((max field 1 : Nat) - 1075)))

/-- The remainder of a value that is a number. -/
def Value.residue? : Value → Option Nat
  | .bool truth => some (if truth then 1 else 0)
  | .int number => some (signedResidue (number < 0) (residue number.natAbs 0))
  | .float number => floatResidue? number
  | _ => none

/-- The number of places for some members: a power of two, from five members on more than twice as many. -/
def tableSize (count : Nat) : Nat := if count < 5 then 8 else 1 <<< ((2 * count).log2 + 1)

/-- The first free place on the way of a remainder through a table: it looks at ten places in a row where
there are as many, and goes on from where the bits left over of the remainder lead it. -/
def freePlace (size : Nat) (taken : List Nat) : Nat → Nat → Nat → Nat
  | 0, _, place => place
  | fuel + 1, bits, place =>
      let row := List.range' place (if place + 9 < size then 10 else 1)
      match row.find? fun candidate => !taken.contains candidate with
      | some free => free
      | none =>
          let bits := bits >>> 5
          freePlace size taken fuel bits ((5 * place + 1 + bits) % size)

/-- The places that remainders take one after the other. When the bits are used up the way leads through
all places, so it is at most as long as given here. -/
def takePlaces (size : Nat) (taken : List Nat) : List Nat → List Nat
  | [] => taken.reverse
  | residue :: rest =>
      takePlaces size (freePlace size taken (size + 13) residue (residue % size) :: taken) rest

theorem takePlaces_length (size : Nat) (taken residues : List Nat) :
    (takePlaces size taken residues).length = taken.length + residues.length := by
  induction residues generalizing taken with
  | nil => simp [takePlaces]
  | cons residue rest ih =>
      simp only [takePlaces, ih, List.length_cons]
      omega

/-- Members in the order in which they are shown. Members that are not all numbers stay as they are. -/
def setOrder (members : List Value) : List Value :=
  match members.mapM Value.residue? with
  | none => members
  | some residues =>
      let placed := members.zip (takePlaces (tableSize members.length) [] residues)
      (placed.mergeSort fun left right => left.2 ≤ right.2).map (·.1)

theorem residues_length {members : List Value} {residues : List Nat}
    (found : members.mapM Value.residue? = some residues) : residues.length = members.length := by
  induction members generalizing residues with
  | nil => simp_all
  | cons member rest ih =>
      simp only [List.mapM_cons, Option.bind_eq_bind, Option.bind_eq_some_iff, Option.pure_def,
        Option.some.injEq] at found
      obtain ⟨residue, _, more, restFound, rfl⟩ := found
      simp [ih restFound]

theorem setOrder_perm (members : List Value) : (setOrder members).Perm members := by
  unfold setOrder
  split
  next => exact List.Perm.refl members
  next residues found =>
      have sameLength := residues_length found
      have sorted := List.mergeSort_perm
        (members.zip (takePlaces (tableSize members.length) [] residues))
        (fun left right => left.2 ≤ right.2)
      have placed := sorted.map (·.1)
      rwa [List.map_fst_zip (by simp [takePlaces_length, sameLength])] at placed

end Chip8
