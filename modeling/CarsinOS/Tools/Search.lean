import CarsinOS.Lib.Replace
import CarsinOS.Lib.Slices
import Mathlib.Logic.Relation

/-! The results of a web search, as they are taken from the page of the search engine. None is
where a slice is out of bounds or off a character boundary. -/
namespace CarsinOS.Tools
open CarsinOS.Lib

/-! Texts. -/

/-- `split_whitespace().collect::<Vec<_>>().join(" ")`. -/
def joinWords (text : Text) : Text :=
  [' '].intercalate ((text.splitOnP isWhitespace).filter (· ≠ []))

/-- The characters outside of tags, from inside or outside of one. -/
def outsideTags : Bool → Text → Text
  | _, [] => []
  | inTag, ch :: rest =>
    if ch = '<' then outsideTags true rest
    else if ch = '>' then outsideTags false rest
    else if inTag then outsideTags inTag rest
    else ch :: outsideTags inTag rest

def stripHtmlTags (input : Text) : Text := joinWords (outsideTags false input)

def hexValue (byte : UInt8) : Option UInt8 :=
  if 0x30 ≤ byte ∧ byte ≤ 0x39 then some (byte - 0x30)
  else if 0x61 ≤ byte ∧ byte ≤ 0x66 then some (byte - 0x61 + 10)
  else if 0x41 ≤ byte ∧ byte ≤ 0x46 then some (byte - 0x41 + 10)
  else none

def percentBytes : List UInt8 → List UInt8
  | byte :: first :: second :: rest =>
    match if byte = 0x25 then hexValue first else none, hexValue second with
    | some high, some low => (high <<< 4 ||| low) :: percentBytes rest
    | _, _ => byte :: percentBytes (first :: second :: rest)
  | byte :: rest => byte :: percentBytes rest
  | [] => []

def continues (byte : UInt8) : Bool := 0x80 ≤ byte && byte ≤ 0xBF

/-- The second byte of a character of more than two, where it may follow the first. -/
def secondFits (first second : UInt8) : Bool :=
  continues second && (first ≠ 0xE0 || 0xA0 ≤ second) && (first ≠ 0xED || second ≤ 0x9F) &&
    (first ≠ 0xF0 || 0x90 ≤ second) && (first ≠ 0xF4 || second ≤ 0x8F)

/-- The low six bits of a byte behind a number. -/
def withBits (n : Nat) (byte : UInt8) : Nat := n * 64 + byte.toNat % 64

/-- `String::from_utf8_lossy`: a sequence that begins no character is replaced as far as it could
have begun one. -/
def fromUtf8Lossy : List UInt8 → Text
  | [] => []
  | a :: rest =>
    if a < 0x80 then Char.ofNat a.toNat :: fromUtf8Lossy rest
    else if 0xC2 ≤ a ∧ a ≤ 0xDF then
      match rest with
      | b :: rest =>
        if continues b then Char.ofNat (withBits (a.toNat % 32) b) :: fromUtf8Lossy rest
        else '\uFFFD' :: fromUtf8Lossy (b :: rest)
      | [] => ['\uFFFD']
    else if 0xE0 ≤ a ∧ a ≤ 0xEF then
      match rest with
      | b :: c :: rest =>
        if ¬ secondFits a b then '\uFFFD' :: fromUtf8Lossy (b :: c :: rest)
        else if ¬ continues c then '\uFFFD' :: fromUtf8Lossy (c :: rest)
        else Char.ofNat (withBits (withBits (a.toNat % 16) b) c) :: fromUtf8Lossy rest
      | b :: rest =>
        if secondFits a b then '\uFFFD' :: fromUtf8Lossy rest
        else '\uFFFD' :: fromUtf8Lossy (b :: rest)
      | [] => ['\uFFFD']
    else if 0xF0 ≤ a ∧ a ≤ 0xF4 then
      match rest with
      | b :: c :: d :: rest =>
        if ¬ secondFits a b then '\uFFFD' :: fromUtf8Lossy (b :: c :: d :: rest)
        else if ¬ continues c then '\uFFFD' :: fromUtf8Lossy (c :: d :: rest)
        else if ¬ continues d then '\uFFFD' :: fromUtf8Lossy (d :: rest)
        else Char.ofNat (withBits (withBits (withBits (a.toNat % 8) b) c) d) :: fromUtf8Lossy rest
      | b :: c :: rest =>
        if ¬ secondFits a b then '\uFFFD' :: fromUtf8Lossy (b :: c :: rest)
        else if ¬ continues c then '\uFFFD' :: fromUtf8Lossy (c :: rest)
        else '\uFFFD' :: fromUtf8Lossy rest
      | b :: rest =>
        if secondFits a b then '\uFFFD' :: fromUtf8Lossy rest
        else '\uFFFD' :: fromUtf8Lossy (b :: rest)
      | [] => ['\uFFFD']
    else '\uFFFD' :: fromUtf8Lossy rest

def percentDecode (input : Text) : Text := fromUtf8Lossy (percentBytes (utf8Bytes input))

/-! Entities. -/

def u32OfInt? (i : Int) : Option Nat := if 0 ≤ i ∧ i < 2 ^ 32 then some i.toNat else none

/-- `char::from_u32`. -/
def charFromU32 (n : Nat) : Option Char := if n.isValidChar then some (Char.ofNat n) else none

def entityNumber : Text → Option Nat
  | 'x' :: hex => (fromStrRadix 16 false u32OfInt? hex).toOption
  | 'X' :: hex => (fromStrRadix 16 false u32OfInt? hex).toOption
  | token => (fromStrRadix 10 false u32OfInt? token).toOption

/-- One turn of the loop over numeric entities, which breaks where it has no next output. -/
def decodeTurn (output : Text) : Option (Option Text) :=
  match find ['&', '#'] output with
  | none => some none
  | some start => do
    match ← findFrom [';'] output start with
    | none => some none
    | some stop => do
      let token ← slice output (start + 2) stop
      match (entityNumber token).bind charFromU32 with
      | none => some none
      | some ch => do
        let before ← sliceTo output start
        let after ← sliceFrom output (stop + 1)
        some (some (before ++ ch :: after))

/-- The loop, for some turns. -/
def decodeTurns : Nat → Text → Option Text
  | 0, output => some output
  | turns + 1, output => do
    match ← decodeTurn output with
    | none => some output
    | some next => decodeTurns turns next

def namedEntities (input : Text) : Text :=
  [(['&', 'a', 'm', 'p', ';'], '&'), (['&', 'q', 'u', 'o', 't', ';'], '"'),
    (['&', '#', 'x', '2', '7', ';'], '\''), (['&', '#', '3', '9', ';'], '\''),
    (['&', 'l', 't', ';'], '<'), (['&', 'g', 't', ';'], '>')].foldl
      (fun output entity => replaceAll entity.1 [entity.2] output) input

def decodeHtmlEntities (input : Text) : Option Text :=
  let output := namedEntities input
  decodeTurns output.length output

/-! Links. -/

def extractHtmlAttr (tag attr : Text) : List Char → Option (Option Text)
  | [] => some none
  | quote :: quotes =>
    let needle := attr ++ ['=', quote]
    match find needle tag with
    | none => extractHtmlAttr tag attr quotes
    | some start => do
      let valueStart := start + utf8Length needle
      match ← findFrom [quote] tag valueStart with
      | none => some none
      | some valueEnd => (slice tag valueStart valueEnd).map some

def normalizeDuckduckgoHref (href : Text) : Option Text :=
  let value := trimChars href
  match find ['u', 'd', 'd', 'g', '='] value with
  | some uddgStart => do
    let encodedStart := uddgStart + 5
    let encodedEnd := (← findFrom ['&'] value encodedStart).getD (utf8Length value)
    (slice value encodedStart encodedEnd).map percentDecode
  | none =>
    match value with
    | '/' :: '/' :: protocolRelative => some ("https://".toList ++ protocolRelative)
    | _ => some value

/-! The loop over the page. -/

structure SearchResult where
  title : Text
  url : Text
  snippet : Text
  deriving DecidableEq

def RESULT_CLASS : Text := ['r', 'e', 's', 'u', 'l', 't', '_', '_', 'a']

def SNIPPET_CLASS : Text :=
  ['r', 'e', 's', 'u', 'l', 't', '_', '_', 's', 'n', 'i', 'p', 'p', 'e', 't']

def ANCHOR_OPEN : Text := ['<', 'a']

def ANCHOR_CLOSE : Text := ['<', '/', 'a', '>']

def anchorSnippet (html : Text) (anchorClose : Nat) : Option Text := do
  let nextAnchor := (← findFrom RESULT_CLASS html anchorClose).getD (utf8Length html)
  let part ← slice html anchorClose nextAnchor
  match find SNIPPET_CLASS part with
  | none => some []
  | some rel => do
    match ← findFrom ['>'] html (anchorClose + rel) with
    | none => some []
    | some openEnd => do
      match ← findFrom ['<', '/'] html (openEnd + 1) with
      | none => some []
      | some close => do decodeHtmlEntities (stripHtmlTags (← slice html (openEnd + 1) close))

def anchorResult (html : Text) (anchorStart anchorOpenEnd anchorClose : Nat) :
    Option (Option SearchResult) := do
  let tag ← slice html anchorStart (anchorOpenEnd + 1)
  let title ← decodeHtmlEntities (stripHtmlTags (← slice html (anchorOpenEnd + 1) anchorClose))
  let href ← extractHtmlAttr tag ['h', 'r', 'e', 'f'] ['"', '\'']
  let url ← match href with
    | some href => do normalizeDuckduckgoHref (← decodeHtmlEntities href)
    | none => some []
  let snippet ← anchorSnippet html anchorClose
  some (if title ≠ [] ∧ url ≠ [] then some ⟨title, url, snippet⟩ else none)

/-- What follows a `result__a`: the loop breaks, or goes on behind the anchor with a result if the
anchor makes one. -/
inductive Turn where
  | finished
  | next (cursor : Nat) (accepted : Option SearchResult)
  deriving DecidableEq

def anchorTurn (html : Text) (anchorStart : Nat) : Option Turn := do
  match ← findFrom ['>'] html anchorStart with
  | none => some .finished
  | some anchorOpenEnd => do
    match ← findFrom ANCHOR_CLOSE html (anchorOpenEnd + 1) with
    | none => some .finished
    | some anchorClose => do
      let accepted ← anchorResult html anchorStart anchorOpenEnd anchorClose
      some (.next (anchorClose + 4) accepted)

def classTurn (html : Text) (classPos : Nat) : Option Turn := do
  match ← rfindTo ANCHOR_OPEN html classPos with
  | none => some (.next (classPos + 9) none)
  | some anchorStart => anchorTurn html anchorStart

/-- The cursor, and the results with the place of the `result__a` each was made for. -/
structure Scan where
  cursor : Nat
  results : List (Nat × SearchResult)
  deriving DecidableEq

inductive Step where
  | panicked
  | ended
  | on (s : Scan)
  deriving DecidableEq

namespace Scan

def start : Scan := ⟨0, []⟩

/-- One turn of `collect_duckduckgo_html_results`. -/
def step (html : Text) (limit : Nat) (s : Scan) : Step :=
  if s.results.length < limit then
    match findFrom RESULT_CLASS html s.cursor with
    | none => .panicked
    | some none => .ended
    | some (some classPos) =>
      match classTurn html classPos with
      | none => .panicked
      | some .finished => .ended
      | some (.next cursor accepted) =>
        .on ⟨cursor, s.results ++ accepted.toList.map fun result => (classPos, result)⟩
  else .ended

/-- The states of the loop. -/
abbrev Reaches (html : Text) (limit : Nat) : Scan → Scan → Prop :=
  Relation.ReflTransGen fun s t => s.step html limit = .on t

end Scan
end CarsinOS.Tools
