import Questionnaire.Xml.Tag

/-!
# Events

A source is read as a row of events: tags that open, close, or are empty
elements, and the text between them. Comments, instructions, declarations and
literal sections are passed over; they give no event, but the text before such a
part and the text after it are two events.

The reader of a part may stop being interested, or fail, before its end. So what
is wrong with the markup is told after the events before it, as with a scan of
tokens. Wrong is a closing tag that does not match the innermost open one, and a
part of the kinds passed over that does not end or is not spelled as it should.
Elements that are still open at the end are not wrong, and a tag that is cut off
there counts as complete.

## Main definitions

* `Event`: A tag or text.
* `Events`: The events of a source, and whether its markup is right.
* `Events.ofSource`: The events of a source.
-/

namespace Questionnaire

namespace Xml

/-- A part of a source that its reader can be interested in. -/
inductive Event
  | opening (tag : Tag)
  | closing (name : Source)
  /-- An element that is empty by its tag. -/
  | empty (tag : Tag)
  /-- Text as it is written. -/
  | text (content : Source)
deriving DecidableEq, Repr

/-- The events of a source. -/
structure Events where
  events : List Event
  /-- Whether the markup is right. If not, the events are those before the fault. -/
  isWellFormed : Bool
deriving DecidableEq, Repr

/-- What a piece of markup turned out to be. -/
inductive MarkupStep
  /-- The source is at its end. -/
  | stop
  | fault
  /-- Markup with its event, if it has one; the names of the open elements after it,
      innermost first; and the rest. -/
  | passed (event? : Option Event) (opened : List Source) (rest : Source)

/-- The source before the first closing bracket, or all of it, and the rest after
    the bracket. -/
def splitBracket (s : Source) : Source × Source :=
  (s.takeWhile (· != .char '>'), (s.dropWhile (· != .char '>')).tail)

/-- The quotation mark that is open after one more character. -/
def nextMark (mark : Option Piece) (u : Piece) : Option Piece :=
  match mark with
  | none => if u = .char '"' ∨ u = .char '\'' then some u else none
  | some m => if u = m then none else mark

/-- The source before the first closing bracket that is not inside quotation marks,
    or all of it, and the rest after the bracket. `mark` is the open mark. -/
def splitElement : (mark : Option Piece) → Source → Source × Source
  | _, [] => ([], [])
  | mark, u :: rest =>
    if mark = none ∧ u = .char '>' then ([], rest)
    else
      let split := splitElement (nextMark mark u) rest
      (u :: split.1, split.2)

/-- The source before the first closing bracket whose place suits, and the rest after
    the bracket. `before` is the source already passed, backwards, and decides
    whether a place suits. -/
def splitWhere (suits : Source → Bool) : (before : Source) → Source → Option (Source × Source)
  | _, [] => none
  | before, u :: rest =>
    if u = .char '>' && suits before then some (before.reverse, rest)
    else splitWhere suits (u :: before) rest

/-- Whether a source begins with a text, small and capital letters being the same. -/
def beginsLike (start : String) (s : Source) : Bool :=
  (s.take start.length).map Piece.toLower ==
    Source.ofChars (start.toList.map Char.toLower)

/-- The rest after a part that runs to a suitable closing bracket and is spelled as it
    should. -/
def passPart (opened : List Source) (suits isRight : Source → Bool) (body : Source) :
    MarkupStep :=
  match splitWhere suits [] body with
  | some (content, rest) => if isRight content then .passed none opened rest else .fault
  | none => .fault

/-- Whether the source passed, backwards, ends a comment. The opening and the closing
    dashes of a comment are not the same ones. -/
def endsComment (before : Source) : Bool :=
  before.take 2 == [.char '-', .char '-'] && 4 ≤ before.length

/-- Whether the source passed, backwards, ends a literal section. -/
def endsLiteral (before : Source) : Bool :=
  before.take 2 == [.char ']', .char ']']

/-- Whether the source passed, backwards, ends a document type: as many brackets have
    been opened as closed. -/
def endsDocumentType (before : Source) : Bool :=
  before.count (.char '<') == before.count (.char '>')

/-- Whether a document type says anything. -/
def isDocumentType (content : Source) : Bool :=
  beginsLike "DOCTYPE" content && (content.drop "DOCTYPE".length).any (!isMarkupBlank ·)

/-- What follows an exclamation mark: a comment, a literal section or a document
    type. -/
def passDeclaration (opened : List Source) (body : Source) : MarkupStep :=
  match body.head? with
  | some (.char '-') => passPart opened endsComment (beginsLike "--") body
  | some (.char '[') => passPart opened endsLiteral (beginsLike "[CDATA[") body
  | some (.char 'D') | some (.char 'd') => passPart opened endsDocumentType isDocumentType body
  | _ => .fault

/-- What follows a question mark: an instruction. It ends with another question mark
    right before the first closing bracket. -/
def passInstruction (opened : List Source) (body : Source) : MarkupStep :=
  let (content, rest) := splitBracket body
  if 2 ≤ content.length && content.endsWith '?' then .passed none opened rest else .fault

/-- The name in a closing tag: what is written there up to its last character that is
    no blank. -/
def closingName (content : Source) : Source :=
  if content.all isMarkupBlank then content
  else (content.reverse.dropWhile isMarkupBlank).reverse

/-- What follows a slash: a closing tag. -/
def passClosing (opened : List Source) (body : Source) : MarkupStep :=
  let (content, rest) := splitBracket body
  match opened with
  | [] => .fault
  | innermost :: outer =>
    if closingName content = innermost then .passed (some (.closing innermost)) outer rest
    else .fault

/-- What follows an opening bracket otherwise: an opening tag, or an empty element. -/
def passElement (opened : List Source) (body : Source) : MarkupStep :=
  let (content, rest) := splitElement none body
  if content.endsWith '/' then .passed (some (.empty (.ofContent content.dropLast))) opened rest
  else
    let tag := Tag.ofContent content
    .passed (some (.opening tag)) (tag.name :: opened) rest

/-- The markup after an opening bracket. -/
def passMarkup (opened : List Source) : Source → MarkupStep
  | [] => .stop
  | .char '!' :: body => passDeclaration opened body
  | .char '?' :: body => passInstruction opened body
  | .char '/' :: body => passClosing opened body
  | body => passElement opened body

theorem length_splitBracket_le (s : Source) : (splitBracket s).2.length ≤ s.length := by
  have := (List.dropWhile_suffix (· != .char '>') (l := s)).length_le
  simp only [splitBracket, List.length_tail]
  omega

theorem length_splitElement_le (mark : Option Piece) (s : Source) :
    (splitElement mark s).2.length ≤ s.length := by
  induction s generalizing mark with
  | nil => simp [splitElement]
  | cons u rest ih =>
    rw [splitElement, List.length_cons]
    split
    · simp
    · exact Nat.le_succ_of_le (ih _)

theorem length_of_splitWhere {suits : Source → Bool} {before s content rest : Source}
    (h : splitWhere suits before s = some (content, rest)) : rest.length ≤ s.length := by
  induction s generalizing before with
  | nil => simp [splitWhere] at h
  | cons u tail ih =>
    rw [splitWhere] at h
    split at h
    · cases h
      exact Nat.le_succ _
    · exact Nat.le_succ_of_le (ih h)

theorem length_of_passPart {opened opened' : List Source} {suits isRight : Source → Bool}
    {body rest : Source} {event? : Option Event}
    (h : passPart opened suits isRight body = .passed event? opened' rest) :
    rest.length ≤ body.length := by
  unfold passPart at h
  split at h
  · rename_i hsplit
    split at h
    · cases h
      exact length_of_splitWhere hsplit
    · cases h
  · cases h

/-- Markup leaves no more than there was. -/
theorem length_of_passMarkup {opened opened' : List Source} {body rest : Source}
    {event? : Option Event} (h : passMarkup opened body = .passed event? opened' rest) :
    rest.length ≤ body.length := by
  unfold passMarkup at h
  split at h
  · cases h
  · refine Nat.le_succ_of_le ?_
    unfold passDeclaration at h
    split at h
    · exact length_of_passPart h
    · exact length_of_passPart h
    · exact length_of_passPart h
    · exact length_of_passPart h
    · cases h
  · refine Nat.le_succ_of_le ?_
    unfold passInstruction at h
    simp only at h
    split at h
    · cases h
      exact length_splitBracket_le _
    · cases h
  · refine Nat.le_succ_of_le ?_
    unfold passClosing at h
    simp only at h
    split at h
    · cases h
    · split at h
      · cases h
        exact length_splitBracket_le _
      · cases h
  · unfold passElement at h
    simp only at h
    split at h
    · cases h
      exact length_splitElement_le _ _
    · cases h
      exact length_splitElement_le _ _

namespace Events

/-- The events of a source inside the open elements, innermost first. -/
def inside (opened : List Source) (s : Source) : Events :=
  match s with
  | [] => ⟨[], true⟩
  | u :: rest =>
    if u = .char '<' then
      match h : passMarkup opened rest with
      | .stop => ⟨[], true⟩
      | .fault => ⟨[], false⟩
      | .passed event? opened rest' =>
        have _ := length_of_passMarkup h
        let after := inside opened rest'
        ⟨event?.toList ++ after.events, after.isWellFormed⟩
    else
      have _ := (List.dropWhile_suffix (· != .char '<') (l := rest)).length_le
      let after := inside opened (rest.dropWhile (· != .char '<'))
      ⟨.text (u :: rest.takeWhile (· != .char '<')) :: after.events, after.isWellFormed⟩
termination_by s.length

/-- The events of a source. -/
def ofSource (s : Source) : Events :=
  inside [] s.withoutMark

end Events

end Xml

end Questionnaire
