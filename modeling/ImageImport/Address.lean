import ImageImport.AddressSpace

/-!
Contract: locations in address spaces.

Owns: flat and segmented addresses, their range checks, their written form and their order. An
address carries the name, kind and width of its space; it is decoded without being checked.
Does not own: the reading of written addresses, which needs the spaces of a language.
-/

namespace ImageImport

structure Address where
  space : String
  kind : SpaceKind
  offset : UInt64
  bits : UInt8
  segment : Option UInt16
deriving DecidableEq, Repr

namespace Address

/-- The address of an offset that the space has. -/
def inSpace (space : AddressSpace) (offset : UInt64) : Except String Address :=
  if offset ≤ space.maxOffset then .ok ⟨space.name, space.kind, offset, space.bits, none⟩
  else
    .error ("offset " ++ Text.hex offset.toNat ++ " exceeds maximum for space '" ++ space.name ++
      "' (" ++ Text.hex space.maxOffset.toNat ++ ")")

/-- The address of a segment and an offset within it; segments begin sixteen offsets apart. -/
def segmented (space : AddressSpace) (segment offset : UInt16) : Except String Address :=
  match inSpace space (segment.toUInt64 * 16 + offset.toUInt64) with
  | .ok address => .ok { address with segment := some segment }
  | .error reason => .error reason

def isMemory (address : Address) : Bool :=
  address.kind.isMemory

def isSegmented (address : Address) : Bool :=
  address.segment.isSome

def maxOffset (address : Address) : UInt64 :=
  maxOffsetOfBits address.bits

/-- Space, colon and offset; a segmented address also has its segment, unless the offset lies in
front of that segment. -/
def text (address : Address) : String :=
  let flat := address.space ++ ":" ++ Text.hex address.offset.toNat
  match address.segment with
  | none => flat
  | some segment =>
      if segment.toNat * 16 ≤ address.offset.toNat then
        address.space ++ ":" ++ Text.hexPadded 4 segment.toNat ++ ":" ++
          Text.hexPadded 4 (address.offset.toNat - segment.toNat * 16)
      else flat

def add (address : Address) (delta : UInt64) : Except String Address :=
  if address.offset.toNat + delta.toNat ≤ address.maxOffset.toNat then
    .ok { address with offset := address.offset + delta, segment := none }
  else
    .error (address.text ++ " + " ++ Text.hex delta.toNat ++ " overflows space '" ++
      address.space ++ "'")

def sameSpace (left right : Address) : Bool :=
  left.space == right.space

/-- No segment comes before every segment. -/
def compareSegments : Option UInt16 → Option UInt16 → Ordering
  | none, none => .eq
  | none, some _ => .lt
  | some _, none => .gt
  | some left, some right => Ord.compare left.toNat right.toNat

/-- By space, kind, offset, width and segment, in this order. -/
def compare (left right : Address) : Ordering :=
  (Ord.compare left.space right.space).then <|
  (Ord.compare left.kind.rank right.kind.rank).then <|
  (Ord.compare left.offset.toNat right.offset.toNat).then <|
  (Ord.compare left.bits.toNat right.bits.toNat).then <|
  compareSegments left.segment right.segment

instance : Ord Address := ⟨compare⟩

def sort (addresses : List Address) : List Address :=
  addresses.mergeSort fun left right => left.compare right != .gt

def toJson (address : Address) : Json :=
  .obj [("space", .str address.space), ("space_kind", address.kind.toJson),
    ("offset", .ofNat address.offset.toNat), ("bits", .ofNat address.bits.toNat),
    ("segment", .ofOption (fun segment => .ofNat segment.toNat) address.segment)]

def ofJson? (value : Json) : Option Address := do
  let record ← value.record? ["space", "space_kind", "offset", "bits", "segment"]
  let space ← (record.slot "space").required Json.str?
  let kind ← (record.slot "space_kind").required SpaceKind.ofJson?
  let offset ← (record.slot "offset").required Json.uint64?
  let bits ← (record.slot "bits").required Json.uint8?
  let segment ← (record.slot "segment").optional Json.uint16?
  return ⟨space, kind, offset, bits, segment⟩

end Address

end ImageImport
