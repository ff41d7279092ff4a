import TokenAudit.Display.Basic

/-!
# Consoles

A console prints the things it is handed, one after the other, and may refuse one: markup with a tag
that closes no open style, or a text that it cannot write. What it makes of a text with odd markup
is its own affair. The library relies on this only: lines of ordinary texts in the known styles are
printed without their tags, what stands in front of markup is printed in front, and nothing is
refused for texts without opening brackets and backslashes. The text that is printed is taken before
the console breaks it to its width.
-/

set_option autoImplicit false

namespace TokenAudit.Display

/-- Why a console refuses what it is handed. -/
structure DisplayFault where
  message : String
  deriving DecidableEq

/-- A part of a line: a text, in a style or in none. -/
structure Segment where
  style : Option String := none
  text : RawText

/-- The styles that are used in lines. -/
def knownStyles : List String :=
  ["bold", "dim", "red", "green", "yellow", "cyan", "bold red", "bold cyan"]

namespace Segment

/-- A part of a line with its tags. -/
def markup (s : Segment) : RawText :=
  match s.style with
  | none => s.text
  | some style =>
    (("[" ++ style ++ "]" : String) : RawText) ++ s.text ++ ("[/" ++ style ++ "]" : String)

/-- A line of parts with their tags. -/
def markupOf (segments : List Segment) : RawText :=
  segments.foldr (fun s rest => s.markup ++ rest) ("" : String)

/-- The text of a line of parts. -/
def textOf (segments : List Segment) : RawText :=
  segments.foldr (fun s rest => s.text ++ rest) ("" : String)

end Segment

/-- A character that is no surrogate, and neither opens a bracket nor is a backslash. -/
def IsMarkless (point : Nat) : Prop :=
  point.isValidChar ∧ point ≠ '['.toNat ∧ point ≠ '\\'.toNat

/-- A character that is printed as it is: no control character but a line feed, either. -/
def IsOrdinary (point : Nat) : Prop :=
  IsMarkless point ∧ (point = '\n'.toNat ∨ ' '.toNat ≤ point ∧ ¬ (0x7f ≤ point ∧ point ≤ 0x9f))

/-- Every character of the text is of a kind. -/
def MadeOf (kind : Nat → Prop) (text : RawText) : Prop :=
  ∀ point ∈ text.points, kind point

/-- The parts are in known styles or in none, and their texts are made of characters of a kind. -/
def Segment.All (kind : Nat → Prop) (segments : List Segment) : Prop :=
  ∀ s ∈ segments, (∀ style ∈ s.style, style ∈ knownStyles) ∧ MadeOf kind s.text

instance : DecidablePred IsMarkless := fun _ => inferInstanceAs (Decidable (_ ∧ _ ∧ _))

instance : DecidablePred IsOrdinary := fun _ =>
  inferInstanceAs (Decidable (_ ∧ (_ ∨ _ ∧ ¬ (_ ∧ _))))

instance {kind : Nat → Prop} [DecidablePred kind] : DecidablePred (MadeOf kind) :=
  fun text => inferInstanceAs (Decidable (∀ point ∈ text.points, kind point))

instance {kind : Nat → Prop} [DecidablePred kind] : DecidablePred (Segment.All kind) :=
  fun segments => inferInstanceAs (Decidable (∀ s ∈ segments, _ ∧ _))

/-- Ordinary parts have no opening brackets and no backslashes. -/
theorem Segment.All.markless {segments : List Segment} (h : Segment.All IsOrdinary segments) :
    Segment.All IsMarkless segments :=
  fun s hs => ⟨(h s hs).1, fun point hpoint => ((h s hs).2 point hpoint).1⟩

/-- The markup of a line of parts in known styles, with characters of a kind. -/
def IsMarkupOf (kind : Nat → Prop) (markup : RawText) : Prop :=
  ∃ segments, Segment.All kind segments ∧ markup = Segment.markupOf segments

/-- The texts of a thing to be shown. -/
def Item.markups : Item → List RawText
  | line markup => [markup]
  | panel p => (p.title.toList ++ [p.body]).map RawText.ofString
  | table t => (t.title.toList ++ t.columns.map (·.header) ++ t.rows.flatten).map RawText.ofString

/-- A console: what it prints of each thing, or why it refuses it. A line with two colons is left to
the console, since what stands between them may name a sign that is printed in its place. -/
structure Console where
  print : Item → Except DisplayFault RawText
  prints_styled : ∀ segments, Segment.All IsOrdinary segments →
    (Segment.textOf segments).points.count ':'.toNat ≤ 1 →
      print (.line (Segment.markupOf segments)) = .ok (Segment.textOf segments)
  prints_lead : ∀ (lead markup text : RawText), MadeOf IsOrdinary lead →
    ':'.toNat ∉ lead.points → print (.line (lead ++ markup)) = .ok text →
      lead.points <+: text.points
  accepts : ∀ item : Item, (∀ markup ∈ item.markups, IsMarkupOf IsMarkless markup) →
    ∃ text, print item = .ok text

namespace Console

/-- The texts that a console prints of things it is handed, up to the first that it refuses. -/
def printed (c : Console) : List Item → List RawText
  | [] => []
  | item :: rest =>
    match c.print item with
    | .ok text => text :: c.printed rest
    | .error _ => []

/-- Why a console refuses the first of the things that it refuses. -/
def refusal? (c : Console) : List Item → Option DisplayFault
  | [] => none
  | item :: rest =>
    match c.print item with
    | .ok _ => c.refusal? rest
    | .error fault => some fault

end Console

end TokenAudit.Display
