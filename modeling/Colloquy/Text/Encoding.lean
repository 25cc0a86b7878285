/-
Encodings: the ways in which bytes stand for a text. An encoding goes by many
names; in a name only letters, digits and points count, and anything else
merely parts them.

The encodings with units of two or four bytes come in two orders of bytes.
Where the order is left open, a mark in front of the text says which it is, and
a text without the mark is refused, though what is wrong with its bytes is told
first.
-/
import Colloquy.Text.CodePage
import Colloquy.Text.EastAsian
import Colloquy.Text.Escaped
import Colloquy.Text.Punycode
import Colloquy.Text.Utf7
import Colloquy.Text.Utf8

namespace Colloquy.Text

/-- The order of the bytes of a unit. -/
inductive ByteOrder
  | little
  | big
deriving DecidableEq, Repr

/-- The mark in front of a text: a code point of its own. -/
def byteOrderMark : Nat := 0xfeff

namespace ByteOrder

/-- The number that bytes make up. -/
def number (order : ByteOrder) (bytes : List UInt8) : Nat :=
  let digits := match order with
    | .little => bytes.reverse
    | .big => bytes
  digits.foldl (fun n b => n * 0x100 + b.toNat) 0

/-- The ending of a label that names the order. -/
def suffix : ByteOrder → String
  | .little => "-le"
  | .big => "-be"

/-- The bytes of the mark, in units of so many bytes. -/
def mark (size : Nat) : ByteOrder → List UInt8
  | .little =>
    [.ofNat (byteOrderMark % 0x100), .ofNat (byteOrderMark / 0x100)]
      ++ .replicate (size - 2) 0
  | .big =>
    .replicate (size - 2) 0
      ++ [.ofNat (byteOrderMark / 0x100), .ofNat (byteOrderMark % 0x100)]

end ByteOrder

/-- An encoding. Of one that is read from the front on with nothing else to it,
there is how bytes are read in it. -/
inductive Encoding
  | utf8
  | utf8Marked
  | direct (decode : List UInt8 → Except Decoding.Fault (List Char))
  | utf16 (order : Option ByteOrder)
  | utf32 (order : Option ByteOrder)
  | punycode
  | domainName
  | undefined

namespace Encoding

-- ====================================================== single bytes

/-- How a single byte is read, from the reason why a byte may stand for nothing
and the code point of each byte that stands for one. -/
def bytewiseStep (reason : Decoding.Reason) (pointOf : Nat → Option Nat) :
    Decoding.Step := fun b _ =>
  match pointOf b.toNat with
  | some point => .ok ([point], 0)
  | none => .error (1, reason)

/-- The bytes below 128 for the code points with their numbers. -/
def ascii : Encoding :=
  .direct (Decoding.decode "ascii" <|
    bytewiseStep .notAscii fun b => if b < 0x80 then some b else none)

/-- The bytes for the code points with their numbers. -/
def latin1 : Encoding :=
  .direct (Decoding.decode "latin-1" <| bytewiseStep .undefined some)

/-- The bytes for the code points of a code page. -/
def ofPage (page : CodePage) : Encoding :=
  .direct (Decoding.decode "charmap" <| bytewiseStep .undefined page.pointOf)

-- ============================================================= names

/-- The encodings with their own names and the others that stand for them. -/
def names : List (Encoding × String × List String) :=
  [(.utf8, "utf_8",
    ["u8", "utf", "utf8", "utf8_ucs2", "utf8_ucs4", "cp65001"]),
    (.utf8Marked, "utf_8_sig", []),
    (ascii, "ascii",
      ["646", "ansi_x3_4_1968", "ansi_x3_4_1986", "cp367", "csascii", "ibm367",
        "iso646_us", "iso_646.irv_1991", "iso_ir_6", "us", "us_ascii"]),
    (latin1, "latin_1",
      ["8859", "cp819", "csisolatin1", "ibm819", "iso8859", "iso8859_1",
        "iso_8859_1", "iso_8859_1_1987", "iso_ir_100", "l1", "latin",
        "latin1"]),
    (latin1, "charmap", []),
    (.utf16 none, "utf_16", ["u16", "utf16"]),
    (.utf16 (some .little), "utf_16_le",
      ["unicodelittleunmarked", "utf_16le"]),
    (.utf16 (some .big), "utf_16_be", ["unicodebigunmarked", "utf_16be"]),
    (.utf32 none, "utf_32", ["u32", "utf32"]),
    (.utf32 (some .little), "utf_32_le", ["utf_32le"]),
    (.utf32 (some .big), "utf_32_be", ["utf_32be"]),
    (.direct Utf7.decode, "utf_7", ["u7", "utf7", "unicode_1_1_utf_7"]),
    (.direct Escaped.decode, "unicode_escape", ["unicodeescape"]),
    (.direct Escaped.decodeRaw, "raw_unicode_escape", ["rawunicodeescape"]),
    (.punycode, "punycode", []),
    (.domainName, "idna", []),
    (.undefined, "undefined", [])]
  ++ CodePage.all.map (fun page => (ofPage page, page.name, page.others))
  ++ EastAsian.Form.all.map
    (fun form => (.direct form.decode, form.name, form.others))

/-- The names of encodings that are not for texts. -/
def otherNames : List (String × List String) := [
  ("base64_codec", ["base64", "base_64"]), ("bz2_codec", ["bz2"]),
  ("hex_codec", ["hex"]),
  ("quopri_codec", ["quopri", "quoted_printable", "quotedprintable"]),
  ("rot_13", ["rot13"]), ("uu_codec", ["uu"]), ("zlib_codec", ["zip", "zlib"])]

/-- Whether a character counts in the name of an encoding. -/
def isNamePart (c : Char) : Bool := c.isAlphanum || c = '.'

/-- The parts of a name, in small letters. `part` holds, in reverse, the part
that is being read. -/
def nameParts (part : List Char) : List Char → List (List Char)
  | [] => if part.isEmpty then [] else [part.reverse]
  | c :: rest =>
    if isNamePart c then nameParts (c.toLower :: part) rest
    else if part.isEmpty then nameParts [] rest
    else part.reverse :: nameParts [] rest

/-- A name as encodings are looked up by it. -/
def plainName (name : String) : String :=
  String.intercalate "_" ((nameParts [] name.toList).map .ofList)

/-- Whether a name is that of an encoding. Only in a name that stands for
another a point may stand for a low line. -/
def isNamed (name own : String) (others : List String) : Bool :=
  others.contains name
    || others.contains
      (.ofList (name.toList.map fun c => if c = '.' then '_' else c))
    || name = own

/-- Why a name is not that of an encoding for texts. -/
inductive NameFault
  | unknown (name : String)
  | notForTexts (name : String)
deriving DecidableEq, Repr

/-- The wording of a fault of a name. -/
def NameFault.message : NameFault → String
  | .unknown name => "unknown encoding: " ++ name
  | .notForTexts name =>
    quoted name
      ++ " is not a text encoding; use codecs.open() to handle arbitrary "
      ++ "codecs"

/-- The encoding with a name. -/
def ofName (name : String) : Except NameFault Encoding :=
  let plain := plainName name
  match names.find? fun (_, own, others) => isNamed plain own others with
  | some (encoding, _) => .ok encoding
  | none =>
    if otherNames.any fun (own, others) => isNamed plain own others then
      .error (.notForTexts name)
    else .error (.unknown name)

-- =========================================================== reading

/-- Why bytes are no text in an encoding. -/
inductive Fault
  | undecodable (fault : Decoding.Fault)
  | punycode (fault : Punycode.Fault)
  | unmarked (form : String)
  | undefined
deriving DecidableEq, Repr

/-- The wording of a fault. -/
def Fault.message : Fault → String
  | .undecodable fault => fault.message
  | .punycode fault => fault.message
  | .unmarked form => form ++ " stream does not start with BOM"
  | .undefined => "undefined encoding"

/-- How a unit of two bytes is read, or a pair of them. -/
def utf16Step (order : ByteOrder) : Decoding.Step := fun a rest =>
  match rest with
  | [] => .error (1, .truncated)
  | b :: rest =>
    let unit := order.number [a, b]
    if isSecondHalf unit then .error (2, .misplaced)
    else if !isFirstHalf unit then .ok ([unit], 1)
    else match rest with
      | c :: d :: _ =>
        let second := order.number [c, d]
        if isSecondHalf second then
          .ok ([pairPoint unit second], 3)
        else .error (2, .unpaired)
      | rest => .error (2 + rest.length, .unexpectedEnd)

/-- How a unit of four bytes is read. -/
def utf32Step (order : ByteOrder) : Decoding.Step := fun a rest =>
  match rest with
  | b :: c :: d :: _ =>
    let point := order.number [a, b, c, d]
    if isHalf point then .error (4, .half)
    else if point < 0x110000 then .ok ([point], 3)
    else .error (4, .tooGreat)
  | rest => .error (1 + rest.length, .truncated)

/-- The text of bytes in units of so many bytes. Where the order is open, a
mark says which it is, and positions are counted from before the mark. -/
def decodeUnits (label form : String) (size : Nat)
    (step : ByteOrder → Decoding.Step) (order : Option ByteOrder)
    (bytes : List UInt8) : Except Fault (List Char) :=
  let read (order : ByteOrder) (skip : Nat) : Except Fault (List Char) :=
    (Decoding.decodeFrom (label ++ order.suffix) (step order) [] 0 skip
      bytes).mapError .undecodable
  match order with
  | some order => read order 0
  | none =>
    match [ByteOrder.little, .big].find? fun order =>
      (order.mark size).isPrefixOf bytes with
    | some order => read order size
    | none => do
      let text ← read .little 0
      if bytes.isEmpty then return text else throw (.unmarked form)

/-- The bytes of the mark in front of a text in the marked form of UTF-8. -/
def utf8Mark : List UInt8 := Utf8.encodePoint byteOrderMark

/-- The text that bytes spell in an encoding. In the marked form of UTF-8 the
mark may be missing; where it is all that there is, it may be cut short. -/
def decode (encoding : Encoding) (bytes : List UInt8) :
    Except Fault (List Char) :=
  match encoding with
  | .utf8 => (Utf8.decode bytes).mapError .undecodable
  | .utf8Marked =>
    let unmarked :=
      if utf8Mark.isPrefixOf bytes then bytes.drop utf8Mark.length
      else if bytes.isPrefixOf utf8Mark then [] else bytes
    (Utf8.decode unmarked).mapError .undecodable
  | .direct decode => (decode bytes).mapError .undecodable
  | .utf16 order => decodeUnits "utf-16" "UTF-16" 2 utf16Step order bytes
  | .utf32 order => decodeUnits "utf-32" "UTF-32" 4 utf32Step order bytes
  | .punycode => (Punycode.decode bytes).mapError .punycode
  | .domainName => (Punycode.decodeLabels bytes).mapError .punycode
  | .undefined => .error .undefined

end Encoding
end Colloquy.Text
