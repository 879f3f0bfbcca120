import RuleAudit.Glob.Token
import RuleAudit.Failure

/-!
# Matching globs

A glob matches the bytes of a whole path. The meaning of a glob is a shape: a sequence of bytes,
sets of bytes and gaps of any length, with alternatives. In a glob that keeps components apart, `*` and
`?` match no separator. A shape that begins at some places of a text may end at some places of it,
and it matches the text if it may begin before the first byte and end behind the last one.
-/

namespace RuleAudit.Glob

/-- Which byte sequences a glob matches. -/
inductive Shape where
  /-- The empty sequence. -/
  | nothing
  /-- One byte of the set. -/
  | byte (accepts : UInt8 → Bool)
  /-- Any sequence of bytes of the set. -/
  | gap (accepts : UInt8 → Bool)
  | both (first second : Shape)
  | either (first second : Shape)

namespace Shape

/-- The places one accepted byte further. There is one place before each byte of a text and one
behind its last byte, and each of them is marked or not. -/
def pastByte (accepts : UInt8 → Bool) (text : List UInt8) (places : List Bool) : List Bool :=
  false :: List.zipWith (fun b marked => marked && accepts b) text places

/-- The places any number of accepted bytes further; `carried` says whether the first place is one
of them because of what stands before it. -/
def pastGap (accepts : UInt8 → Bool) : (carried : Bool) → List UInt8 → List Bool → List Bool
  | carried, b :: text, marked :: later =>
    let here := carried || marked
    here :: pastGap accepts (here && accepts b) text later
  | carried, [], marked :: _ => [carried || marked]
  | _, _, [] => []

/-- Where the shape may end in a text if it begins at a marked place. -/
def ends : Shape → List UInt8 → List Bool → List Bool
  | .nothing, _, places => places
  | .byte accepts, text, places => pastByte accepts text places
  | .gap accepts, text, places => pastGap accepts false text places
  | .both first second, text, places => second.ends text (first.ends text places)
  | .either first second, text, places =>
    List.zipWith (· || ·) (first.ends text places) (second.ends text places)

/-- Whether the shape matches the whole text. -/
def isMatch (shape : Shape) (text : List UInt8) : Bool :=
  (shape.ends text (true :: text.map fun _ => false)).getLastD false

/-- A sequence of exactly these bytes. -/
def ofBytes (bytes : List UInt8) : Shape :=
  bytes.foldr (fun b later => .both (.byte (· == b)) later) .nothing

/-- The separator of components. -/
def separator : Shape :=
  .byte (· == 47)

/-- Any sequence at all. -/
def anything : Shape :=
  .gap fun _ => true

end Shape

/-- The bytes of a text. -/
def bytesOf (text : String) : List UInt8 :=
  text.toUTF8.toList

/-- The bytes that a range of characters accepts. A range is taken byte by byte: the bytes of its
first character except the last one, those from that one up to the first byte of its last character,
and the other bytes of that character. -/
def rangeAccepts (low high : Char) (b : UInt8) : Bool :=
  let lows := bytesOf (String.singleton low)
  let highs := bytesOf (String.singleton high)
  if low = high then lows.contains b
  else
    lows.dropLast.contains b || highs.tail.contains b ||
      (match lows.getLast?, highs.head? with
        | some first, some last => first ≤ b && b ≤ last
        | _, _ => false)

/-- Which bytes `*` and `?` match. -/
def wildByte (apart : Bool) (b : UInt8) : Bool :=
  !apart || b != 47

mutual
/-- The shape of a token; braces that list nothing but empty branches have none. -/
def Token.shape? (apart : Bool) : Token → Option Shape
  | .literal c => some (.ofBytes (bytesOf (String.singleton c)))
  | .any => some (.byte (wildByte apart))
  | .many => some (.gap (wildByte apart))
  | .leadingComponents =>
    some (.either (.either .nothing Shape.separator) (.both .anything Shape.separator))
  | .trailingComponents => some (.both Shape.separator .anything)
  | .innerComponents =>
    some (.either Shape.separator (.both Shape.separator (.both .anything Shape.separator)))
  | .listed negated ranges =>
    some (.byte fun b => (ranges.any fun (low, high) => rangeAccepts low high b) != negated)
  | .oneOf branches => branchesShape? apart branches

/-- The shape of tokens one after the other, unless none of them has one. -/
def shapeOf? (apart : Bool) : List Token → Option Shape
  | [] => none
  | token :: later =>
    match token.shape? apart, shapeOf? apart later with
    | none, shape => shape
    | some first, none => some first
    | some first, some second => some (.both first second)

/-- The shape of alternatives; a branch without a shape is none of them. -/
def branchesShape? (apart : Bool) : List (List Token) → Option Shape
  | [] => none
  | branch :: later =>
    match shapeOf? apart branch, branchesShape? apart later with
    | none, shape => shape
    | some first, none => some first
    | some first, some second => some (.either first second)
end

/-- The shape of a whole glob; a lone `**` matches everything. -/
def wholeShape (apart : Bool) : List Token → Shape
  | [.leadingComponents] => .anything
  | tokens => (shapeOf? apart tokens).getD .nothing

/-- The globs of a list compiled in order; the first one that cannot be compiled is named. -/
def compile : List String → Except Failure (List Shape)
  | [] => .ok []
  | pattern :: later =>
    match parse? pattern with
    | none => .error (.badPattern pattern)
    | some tokens =>
      match compile later with
      | .ok shapes => .ok (wholeShape false tokens :: shapes)
      | .error failure => .error failure

/-- Whether one of the globs matches the path as it is spelled. -/
def anyMatch (shapes : List Shape) (path : Path) : Bool :=
  let bytes := bytesOf path.spelling
  shapes.any (·.isMatch bytes)

/-- The positions of the globs that match the path, in increasing order. -/
def matching (shapes : List Shape) (path : Path) : List Nat :=
  let bytes := bytesOf path.spelling
  (shapes.zipIdx.filter fun (shape, _) => shape.isMatch bytes).map (·.2)

end RuleAudit.Glob
