/-! # White space

The characters that Unicode calls white space, and words between them.
-/

namespace SqlWire.Text

/-- The code points of white space, as ranges in ascending order with both ends in them. -/
def blankRanges : List (Nat × Nat) := [
  (0x09, 0x0d), (0x20, 0x20), (0x85, 0x85), (0xa0, 0xa0), (0x1680, 0x1680), (0x2000, 0x200a),
  (0x2028, 0x2029), (0x202f, 0x202f), (0x205f, 0x205f), (0x3000, 0x3000)]

def isBlank (c : Char) : Bool :=
  blankRanges.any fun (first, last) => first ≤ c.toNat && c.toNat ≤ last

/-- Cuts a text at the characters of a class and keeps the parts that are not empty. The part
that is being read stands in `part`, newest character first, and the finished ones in `parts`. -/
def partsOnto (separates : Char → Bool) (part : List Char) (parts : List (List Char)) :
    List Char → List (List Char)
  | [] => (if part.isEmpty then parts else part.reverse :: parts).reverse
  | c :: rest =>
    if separates c then
      partsOnto separates [] (if part.isEmpty then parts else part.reverse :: parts) rest
    else partsOnto separates (c :: part) parts rest

def parts (separates : Char → Bool) (text : List Char) : List (List Char) :=
  partsOnto separates [] [] text

def words (s : String) : List String :=
  (parts isBlank s.toList).map String.ofList

end SqlWire.Text
