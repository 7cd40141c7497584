import Questionnaire.Xml.Reference

/-!
# Tags and Attributes

What stands between the angle brackets of a tag: a name, and attributes. Names
are compared as they are written; a prefix before a colon counts for the names of
attributes and is left out of the local name of a tag.

Attributes are read from left to right. One that is not a key, an equals sign and
a quoted value is passed over, and reading goes on at the next blank; so is one
whose key came before. An attribute that never ends is the end of the
attributes. The value is looked at only when it is asked for.

## Main definitions

* `Tag`: A name and attributes.
* `Tag.ofContent`: The tag of what stands between angle brackets.
* `Tag.localName`: The name without its prefix.
* `Tag.attribute?`: The value of an attribute.
-/

namespace Questionnaire

namespace Xml

/-- A tag: its name, and its attributes as they are written. -/
structure Tag where
  name : Source
  attributes : List (Source × Source)
deriving DecidableEq, Repr

/-- What an attribute turned out to be, and where reading goes on. -/
inductive AttributeStep
  /-- There are no more attributes. -/
  | done
  /-- An attribute with its value. -/
  | found (key value rest : Source)
  /-- Nothing that could be used. -/
  | skipped (key? : Option Source) (rest : Source)

/-- Where reading goes on, if it does. -/
def AttributeStep.rest? : AttributeStep → Option Source
  | done => none
  | found _ _ rest | skipped _ rest => some rest

/-- The source from its first blank on. -/
def fromBlank (s : Source) : Source :=
  s.dropWhile (!isMarkupBlank ·)

/-- The value after the equals sign of the attribute `key`. -/
def readValue (key afterEquals : Source) : AttributeStep :=
  match afterEquals.dropWhile isMarkupBlank with
  | [] => .done
  | mark :: rest =>
    if mark = .char '"' ∨ mark = .char '\'' then
      match rest.dropWhile (· != mark) with
      | [] => .done
      | _ :: after => .found key (rest.takeWhile (· != mark)) after
    else .skipped (some key) (fromBlank rest)

/-- Whether a key ends before this. -/
def endsKey (u : Piece) : Bool :=
  u == .char '=' || isMarkupBlank u

/-- The next attribute, after those with the keys `seen`. -/
def readAttribute (seen : List Source) (s : Source) : AttributeStep :=
  match s.dropWhile isMarkupBlank with
  | [] => .done
  | first :: rest =>
    let key := first :: rest.takeWhile (!endsKey ·)
    match (rest.dropWhile (!endsKey ·)).dropWhile isMarkupBlank with
    | [] => .done
    | u :: after =>
      if u ≠ .char '=' then .skipped none (u :: after)
      else if seen.contains key then .skipped none (fromBlank after)
      else readValue key after

theorem length_fromBlank_le (s : Source) : (fromBlank s).length ≤ s.length :=
  (List.dropWhile_suffix _).length_le

theorem length_of_readValue {key s rest : Source}
    (h : (readValue key s).rest? = some rest) : rest.length < s.length := by
  unfold readValue at h
  have hs := (List.dropWhile_suffix isMarkupBlank (l := s)).length_le
  cases hv : s.dropWhile isMarkupBlank with
  | nil =>
    rw [hv] at h
    cases h
  | cons mark text =>
    rw [hv, List.length_cons] at hs
    simp only [hv] at h
    split at h
    · have hmark := (List.dropWhile_suffix (· != mark) (l := text)).length_le
      cases ht : text.dropWhile (· != mark) with
      | nil =>
        rw [ht] at h
        cases h
      | cons closing tail =>
        rw [ht] at h
        rw [ht, List.length_cons] at hmark
        cases h
        omega
    · have htext := length_fromBlank_le text
      cases h
      omega

/-- Reading an attribute leaves less than there was. -/
theorem length_of_readAttribute {seen : List Source} {s rest : Source}
    (h : (readAttribute seen s).rest? = some rest) : rest.length < s.length := by
  unfold readAttribute at h
  have hs := (List.dropWhile_suffix isMarkupBlank (l := s)).length_le
  cases hfirst : s.dropWhile isMarkupBlank with
  | nil =>
    rw [hfirst] at h
    cases h
  | cons first tail =>
    rw [hfirst, List.length_cons] at hs
    simp only [hfirst] at h
    have hkey := (List.dropWhile_suffix (!endsKey ·) (l := tail)).length_le
    have hblank := (List.dropWhile_suffix isMarkupBlank
      (l := tail.dropWhile (!endsKey ·))).length_le
    cases hu : (tail.dropWhile (!endsKey ·)).dropWhile isMarkupBlank with
    | nil =>
      rw [hu] at h
      cases h
    | cons u after =>
      rw [hu, List.length_cons] at hblank
      simp only [hu] at h
      have hafter := length_fromBlank_le after
      split at h
      · cases h
        rw [List.length_cons]
        omega
      · split at h
        · cases h
          omega
        · have := length_of_readValue h
          omega

/-- The attributes of a source, after those with the keys `seen`. -/
def readAttributes (seen : List Source) (s : Source) : List (Source × Source) :=
  match h : readAttribute seen s with
  | .done => []
  | .found key value rest =>
    have hrest : (readAttribute seen s).rest? = some rest := by rw [h]; rfl
    have _ := length_of_readAttribute hrest
    (key, value) :: readAttributes (key :: seen) rest
  | .skipped key? rest =>
    have hrest : (readAttribute seen s).rest? = some rest := by rw [h]; rfl
    have _ := length_of_readAttribute hrest
    readAttributes (key?.toList ++ seen) rest
termination_by s.length

namespace Tag

/-- The tag of what stands between angle brackets, without the slash of an empty
    element. -/
def ofContent (content : Source) : Tag :=
  ⟨content.takeWhile (!isMarkupBlank ·),
    readAttributes [] (content.dropWhile (!isMarkupBlank ·))⟩

/-- A name without its prefix: what stands after its first colon. -/
def withoutPrefix (name : Source) : Source :=
  if name.contains (.char ':') then (name.dropWhile (· != .char ':')).tail else name

/-- The name of a tag without its prefix. -/
def localName (t : Tag) : Source :=
  withoutPrefix t.name

/-- Whether a tag has a local name. -/
def isCalled (t : Tag) (name : String) : Bool :=
  t.localName == Source.ofString name

/-- The value of the first attribute of a key, with its references replaced. A value
    that is not well formed is as good as none. -/
def attribute? (t : Tag) (key : String) : Option String :=
  (t.attributes.find? fun a => a.1 == Source.ofString key).bind fun a =>
    (resolve a.2).map String.ofList

end Tag

end Xml

end Questionnaire
