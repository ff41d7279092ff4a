import TokenAudit.Display.Plain
import TokenAudit.Proofs.Command.SignalFile
import TokenAudit.Proofs.Display.Printing
import TokenAudit.Proofs.Document.Field
import TokenAudit.Proofs.Signal.ReasonTexts
import TokenAudit.Proofs.Signal.RiskOrder

/-!
# What a rating leaves

A rating shows in the exit code, on the console and in an exported document. All three come from the
same rating, so the level that is printed is the one that is read back from the document and decides
the code, and each reason of the document has its printed line. A reason is handed to the console as
markup, so its line tells the reason itself only where the console prints that text as it is, which
it does for ordinary ones. A file that gives no rating shows on none of the three.
-/

set_option autoImplicit false

namespace TokenAudit

/-! ## What is printed of a rating -/

/-- The text after the words that a text begins with, if it begins with them. -/
def RawText.dropWords? (words : String) (t : RawText) : Option RawText :=
  if (ofString words).points.isPrefixOf t.points then
    some ⟨t.points.drop (ofString words).points.length⟩
  else none

/-- Words in front of a text are dropped. -/
theorem RawText.dropWords?_append (words : String) (t : RawText) :
    (ofString words ++ t).dropWords? words = some t := by
  unfold dropWords?
  rw [points_append, if_pos (List.isPrefixOf_iff_prefix.2 (List.prefix_append _ _)),
    List.drop_left]

namespace Display

/-- The line on a level. -/
def levelItem (g : Grade) : Item :=
  .line ("\nRisk level: " ++ styled (levelStyle g) g.heading)

/-- The line in place of reasons. -/
def noReasonItem : Item :=
  .line (styled "green" "No risk factors found.")

/-- What is printed of a level. -/
def levelText (g : Grade) : RawText :=
  ("\nRisk level: " ++ g.heading : String)

/-- What is printed in place of reasons. -/
def noReasonText : RawText :=
  ("No risk factors found." : String)

/-- The line of a reason. -/
def reasonText (reason : RawText) : RawText :=
  "  - " ++ reason

/-- The reasons that are printed, in order, without what stands in front of each. -/
def printedReasons (printed : List RawText) : List RawText :=
  printed.filterMap (RawText.dropWords? "  - ")

/-- What is printed of a rating, where texts are told for its reasons. -/
def printedRating (r : Rating) (told : List RawText) : List RawText :=
  levelText r.level :: if r.reasons = [] then [noReasonText] else told.map reasonText

/-- A reason is an ordinary text with one colon at most. -/
def IsOrdinaryReason (reason : RawText) : Prop :=
  MadeOf IsOrdinary reason ∧ reason.points.count ':'.toNat ≤ 1
  deriving Decidable

/-- What is shown of a rating: the level, and the reasons or a line in their place. -/
theorem ratingItems_eq (r : Rating) :
    ratingItems r = levelItem r.level ::
      if r.reasons = [] then [noReasonItem]
      else r.reasons.map fun reason => .line (reasonText reason) := by
  unfold ratingItems
  simp only [List.isEmpty_iff]
  rfl

example : levelItem .high = .line ("\nRisk level: [bold red]HIGH[/bold red]" : String) := by
  decide

/-- The texts of levels differ. -/
theorem levelText_inj {g g' : Grade} (h : levelText g = levelText g') : g = g' := by
  revert h
  cases g <;> cases g' <;> decide

/-- The text of a level is not the line in place of reasons. -/
theorem levelText_ne_noReasonText (g : Grade) : levelText g ≠ noReasonText := by
  cases g <;> decide

/-- The text of a level is not taken for a reason. -/
theorem dropWords?_levelText (g : Grade) : (levelText g).dropWords? "  - " = none := by
  cases g <;> decide

/-- Lines of different reasons differ. -/
theorem reasonText_inj {reason other : RawText} (h : reasonText reason = reasonText other) :
    reason = other := by
  have hpoints := List.append_cancel_left (congrArg RawText.points h)
  exact congrArg RawText.mk hpoints

/-- The line in place of reasons is not taken for one. -/
theorem dropWords?_noReasonText : noReasonText.dropWords? "  - " = none := by
  decide

variable {c : Console} {r : Rating}

/-- The line on a level is printed without its tags. -/
theorem print_levelItem (c : Console) (g : Grade) : c.print (levelItem g) = .ok (levelText g) := by
  have hshows : Shows IsOrdinary ("\nRisk level: " ++ styled (levelStyle g) g.heading)
      (RawText.ofString "\nRisk level: " ++ RawText.ofString g.heading) := by
    apply (shows_text (by decide)).append
    apply shows_styled <;> cases g <;> decide
  rw [levelText, RawText.ofString_append]
  apply c.print_of_shows hshows
  cases g <;> decide

/-- The line in place of reasons is printed without its tags. -/
theorem print_noReasonItem (c : Console) : c.print noReasonItem = .ok noReasonText := by
  exact c.print_of_shows (shows_styled (by decide) (by decide)) (by decide)

/-- The line of a reason is printed with the same beginning. -/
theorem exists_eq_of_print_reason {reason text : RawText}
    (h : c.print (.line (reasonText reason)) = .ok text) : ∃ shown, text = reasonText shown := by
  obtain ⟨rest, hrest⟩ := c.prints_lead (RawText.ofString "  - ") reason text (by decide)
    (by decide) h
  exact ⟨⟨rest⟩, congrArg RawText.mk hrest.symm⟩

/-- The line of an ordinary reason is printed as it is. -/
theorem print_ordinary_reason (c : Console) {reason : RawText} (h : IsOrdinaryReason reason) :
    c.print (.line (reasonText reason)) = .ok (reasonText reason) := by
  refine c.print_of_shows (shows_text ?_) ?_
  · exact madeOf_append_iff.2 ⟨by decide, h.1⟩
  · have hlead : (RawText.ofString "  - ").points.count ':'.toNat = 0 := by decide
    rw [reasonText, RawText.points_append, List.count_append, hlead, Nat.zero_add]
    exact h.2

/-- A printed text tells a reason: it is what the console makes of the line of that reason, and
what stands behind its beginning is the text that is told. -/
def Console.Tells (c : Console) (reason told : RawText) : Prop :=
  c.print (.line (reasonText reason)) = .ok (reasonText told)

/-- The lines of reasons that are printed each tell their reason. -/
theorem exists_told {reasons texts : List RawText}
    (h : List.Forall₂ (fun reason text => c.print (.line (reasonText reason)) = .ok text)
      reasons texts) :
    ∃ told : List RawText, texts = told.map reasonText ∧ List.Forall₂ c.Tells reasons told := by
  induction h with
  | nil => exact ⟨[], rfl, .nil⟩
  | cons hfirst _ ih =>
    obtain ⟨text, rfl⟩ := exists_eq_of_print_reason hfirst
    obtain ⟨told, rfl, hall⟩ := ih
    exact ⟨text :: told, rfl, .cons hfirst hall⟩

/-- What is printed of a rating: its level, and behind it the lines that tell its reasons or the one
in their place. -/
theorem printed_ratingItems (h : c.refusal? (ratingItems r) = none) :
    ∃ told, c.printed (ratingItems r) = printedRating r told ∧
      List.Forall₂ c.Tells r.reasons told := by
  have hprinted := Console.forall₂_printed h
  rw [ratingItems_eq] at hprinted ⊢
  generalize c.printed _ = printed at hprinted ⊢
  obtain ⟨level, rest, hlevel, hrest, rfl⟩ := List.forall₂_cons_left_iff.1 hprinted
  cases hlevel.symm.trans (print_levelItem c r.level)
  unfold printedRating
  by_cases hnone : r.reasons = []
  · simp only [if_pos hnone] at hrest ⊢
    obtain ⟨text, more, htext, hmore, rfl⟩ := List.forall₂_cons_left_iff.1 hrest
    cases htext.symm.trans (print_noReasonItem c)
    cases hmore
    rw [hnone]
    exact ⟨[], rfl, .nil⟩
  · simp only [if_neg hnone] at hrest ⊢
    obtain ⟨told, rfl, hall⟩ := exists_told (List.forall₂_map_left_iff.1 hrest)
    exact ⟨told, rfl, hall⟩

/-- The printed reasons are told by the lines behind the level. -/
theorem printedReasons_printedRating {told : List RawText}
    (h : List.Forall₂ c.Tells r.reasons told) : printedReasons (printedRating r told) = told := by
  rw [printedRating, printedReasons, List.filterMap_cons_none (dropWords?_levelText r.level)]
  split
  next hnone =>
    rw [hnone, List.forall₂_nil_left_iff] at h
    rw [h, List.filterMap_cons_none dropWords?_noReasonText]
    rfl
  next =>
    have hdrop : RawText.dropWords? "  - " ∘ reasonText = some := by
      funext text
      exact RawText.dropWords?_append "  - " text
    rw [List.filterMap_map, hdrop, List.filterMap_some]

/-- A console tells one text for each reason. -/
theorem told_unique {reasons told others : List RawText} (h : List.Forall₂ c.Tells reasons told)
    (hothers : List.Forall₂ c.Tells reasons others) : told = others := by
  induction h generalizing others with
  | nil => exact (List.forall₂_nil_left_iff.1 hothers).symm
  | cons hfirst _ ih =>
    obtain ⟨other, rest, hother, hrest, rfl⟩ := List.forall₂_cons_left_iff.1 hothers
    rw [ih hrest, reasonText_inj (Except.ok.inj (hfirst.symm.trans hother))]

/-- The reasons that are told are the reasons themselves exactly when the line of each is printed as
it is. -/
theorem told_eq_iff {reasons told : List RawText} (h : List.Forall₂ c.Tells reasons told) :
    told = reasons ↔ ∀ reason ∈ reasons, c.Tells reason reason := by
  rw [← List.forall₂_same]
  constructor
  · rintro rfl
    exact h
  · exact told_unique h

variable {told : List RawText}

/-- A text that is not taken for a reason is among those printed of a rating if it is that of the
level, or the one in place of reasons. -/
theorem mem_printedRating_iff {text : RawText} (h : text.dropWords? "  - " = none) :
    text ∈ printedRating r told ↔
      text = levelText r.level ∨ r.reasons = [] ∧ text = noReasonText := by
  rw [printedRating, List.mem_cons]
  split
  next hnone => simp [hnone]
  next hsome =>
    have hreason : text ∉ told.map reasonText := by
      rw [List.mem_map]
      rintro ⟨reason, -, rfl⟩
      cases h.symm.trans (RawText.dropWords?_append "  - " reason)
    simp [hsome, hreason]

/-- One level is printed, and it is that of the rating. -/
theorem levelText_mem_iff {g : Grade} : levelText g ∈ printedRating r told ↔ r.level = g := by
  rw [mem_printedRating_iff (dropWords?_levelText g)]
  constructor
  · rintro (hsame | ⟨-, hother⟩)
    · exact (levelText_inj hsame).symm
    · exact absurd hother (levelText_ne_noReasonText g)
  · rintro rfl
    exact .inl rfl

/-- The line in place of reasons is printed if there are none. -/
theorem noReasonText_mem_iff : noReasonText ∈ printedRating r told ↔ r.reasons = [] := by
  rw [mem_printedRating_iff dropWords?_noReasonText]
  simp [(levelText_ne_noReasonText r.level).symm]

end Display

/-! ## What is exported of a rating -/

namespace Rating

variable (r : Rating) (time : String)

/-- An exported rating has its level under that key. -/
theorem field_level : (r.document time).field? "level" = some (.text r.level.heading) := rfl

/-- It has its reasons under theirs. -/
theorem field_reasons : (r.document time).field? "reasons" = some (.texts r.reasons) := rfl

variable {r}

/-- The document of a rating can be read back if its reasons can. -/
theorem legible_document (h : ∀ reason ∈ r.reasons, reason.IsJoined) :
    Document.Legible 2 (r.document time) := by
  have hreasons : Document.Legible 1 (.texts r.reasons) := Document.legible_texts h
  apply Document.Legible.object
  simp only [exportHeader, List.cons_append, List.nil_append, List.forall_mem_cons]
  exact ⟨Document.legible_string _, Document.legible_string _, Document.legible_string _, hreasons,
    nofun⟩

end Rating

/-! ## The command -/

/-- The exit code, the printed texts and the exported document, if there is one, tell the same level
of a rating. Each of its reasons has its line, in order, and the lines tell the reasons themselves
exactly where the console prints them as they are, which it does if they are ordinary. -/
structure Session.Tells (o : Session) (c : Display.Console) (r : Rating) (code : Nat)
    (exportTo : CommandLine.OptionValue) : Prop where
  known : code = 0 ∨ code = 1
  output : o.output = ""
  level : ∀ g, Display.levelText g ∈ o.printed ↔ r.level = g
  high : code = 1 ↔ Display.levelText .high ∈ o.printed
  lines : List.Forall₂ c.Tells r.reasons (Display.printedReasons o.printed)
  reasons : Display.printedReasons o.printed = r.reasons ↔
    ∀ reason ∈ r.reasons, c.Tells reason reason
  ordinary : (∀ reason ∈ r.reasons, Display.IsOrdinaryReason reason) →
    Display.printedReasons o.printed = r.reasons
  quiet : Display.noReasonText ∈ o.printed ↔ r.reasons = []
  exported : ∀ target, exportPath? exportTo = some target → ∃ d,
    (∀ limit, 2 ≤ limit → o.tree.signalDocument limit target = .ok d) ∧
      (d.field? "level" = some (.text "HIGH") ↔ code = 1) ∧
      d.field? "reasons" = some (.texts r.reasons)

section

variable {s : Situation} {words : List String} {args : CommandLine.Arguments} {path : String}
  {rating : Rating} {code : Nat} {c : Consoles}

/-- A file that is rated has its rating shown, and the command ends with the code of the rating if
the export that is asked for is possible. -/
theorem perform_of_rating (hargs : CommandLine.readArguments words = .ok args)
    (hcommand : args.command = .signals path) (hrate : rateFile s path = .ok rating) :
    (perform s words).console = Display.ratingItems rating ∧ (perform s words).output = "" ∧
      (∀ c, (perform s words).ending = .ok c ↔
        exitCode (rating.level = .high) = c ∧ s.CanExport args.exportTo) ∧
      (s.CanExport args.exportTo →
        Exported s rating.document args.exportTo (perform s words).tree ∧
          (perform s words).errorConsole =
            Display.banner ++ (exportPath? args.exportTo).toList.map exportedItem) := by
  rw [perform_of_signals hargs hcommand]
  unfold rateCommand
  simp only [hrate]
  refine ⟨finish_console, finish_output, fun _ => finish_ending_iff, fun hexport => ?_⟩
  exact ⟨finish_exported hexport, congrArg (Display.banner ++ ·) (finish_errorConsole hexport)⟩

/-- The code is one exactly when something is graded high. -/
theorem exitCode_eq_one_iff {high : Bool} : exitCode high = 1 ↔ high = true := by
  cases high <;> decide

/-- The code is zero or one. -/
theorem exitCode_cases (high : Bool) : exitCode high = 0 ∨ exitCode high = 1 := by
  cases high <;> decide

/-- Only the high grade has that heading. -/
theorem heading_eq_high_iff {g : Grade} :
    Document.text g.heading = .text "HIGH" ↔ g = .high := by
  cases g <;> simp <;> decide

/-- Texts that are read from a signal file hold no pair of surrogates. -/
theorem isJoined_of_signalDocument {t : FileTree} {limit : Nat} {d : Document}
    (h : t.signalDocument limit path = .ok d) : d.toDatum.IsJoined := by
  obtain ⟨text, -, hread⟩ := bind_eq_ok_iff.1 h
  exact Document.isJoined_of_read (mapError_eq_ok_iff.1 hread)

/-- The document of a rating is read from the file that it was exported to. -/
theorem signalDocument_of_exported {exportTo : CommandLine.OptionValue} {tree : FileTree}
    {target : String} (hwork : s.tree.HasFolder s.tree.workingFolder)
    (hjoined : ∀ reason ∈ rating.reasons, reason.IsJoined)
    (hexported : Exported s rating.document exportTo tree)
    (htarget : exportPath? exportTo = some target) :
    ∃ time, ∀ limit, 2 ≤ limit →
      tree.signalDocument limit target = .ok (rating.document time) := by
  cases hexported with
  | unasked hnone => cases hnone.symm.trans htarget
  | written hpath hexport =>
    cases hpath.symm.trans htarget
    obtain ⟨time, -, hstore⟩ := export_eq_ok_iff.1 hexport
    exact ⟨time, fun limit hlimit =>
      signalDocument_of_store hwork (rating.legible_document time hjoined) hlimit hstore⟩

/-- A file that is rated has its rating told. -/
theorem tells_of_rating (hwork : s.tree.HasFolder s.tree.workingFolder)
    (hargs : CommandLine.readArguments words = .ok args) (hcommand : args.command = .signals path)
    (hrate : rateFile s path = .ok rating)
    (hjoined : ∀ reason ∈ rating.reasons, reason.IsJoined)
    (hending : (c.carryOut s words).ending = .ok code) :
    (c.carryOut s words).Tells c.output rating code args.exportTo := by
  obtain ⟨hconsole, houtput, hends, hexports⟩ := perform_of_rating hargs hcommand hrate
  obtain ⟨hperformed, htaken, -⟩ := Consoles.carryOut_ending_eq_ok_iff.1 hending
  obtain ⟨hsaid, hprinted, htree⟩ := Consoles.carryOut_of_ending hending
  rw [hconsole] at htaken hprinted
  obtain ⟨told, htold, hlines⟩ := Display.printed_ratingItems htaken
  have hreasons := Display.printedReasons_printedRating hlines
  rw [← htold, ← hprinted] at hreasons
  obtain ⟨hcode, hexport⟩ := (hends code).1 hperformed
  have hhigh : code = 1 ↔ rating.level = .high := by
    rw [← hcode, exitCode_eq_one_iff, decide_eq_true_iff]
  constructor
  case known =>
    rw [← hcode]
    exact exitCode_cases _
  case output => exact hsaid.trans houtput
  case level =>
    intro g
    rw [hprinted, htold]
    exact Display.levelText_mem_iff
  case high => rw [hhigh, hprinted, htold, Display.levelText_mem_iff]
  case lines =>
    rw [hreasons]
    exact hlines
  case reasons =>
    rw [hreasons]
    exact Display.told_eq_iff hlines
  case ordinary =>
    intro hordinary
    rw [hreasons, Display.told_eq_iff hlines]
    exact fun reason hreason => Display.print_ordinary_reason c.output (hordinary reason hreason)
  case quiet =>
    rw [hprinted, htold]
    exact Display.noReasonText_mem_iff
  case exported =>
    intro target htarget
    obtain ⟨time, hdocument⟩ :=
      signalDocument_of_exported hwork hjoined (hexports hexport).1 htarget
    refine ⟨rating.document time, htree ▸ hdocument, ?_, rating.field_reasons time⟩
    rw [hhigh, rating.field_level, Option.some.injEq, heading_eq_high_iff]

/-- A signal file that is rated has its rating told by the exit code, by what is printed and by the
exported document, the reasons themselves as far as the console prints them as they are; where the
exit code is two, nothing is printed and no file is changed. -/
theorem signal_outputs_agree_iff (hwork : s.tree.HasFolder s.tree.workingFolder)
    (hargs : CommandLine.readArguments words = .ok args) (hcommand : args.command = .signals path)
    (hending : (c.carryOut s words).ending = .ok code) :
    (code = 2 → (c.carryOut s words).printed = [] ∧ (c.carryOut s words).output = "" ∧
      (c.carryOut s words).tree = s.tree) ∧
    (code ≠ 2 → ∃ d rating, s.tree.signalDocument s.depthLimit path = .ok d ∧
      d.toDatum.rating = .ok rating ∧
        (c.carryOut s words).Tells c.output rating code args.exportTo) := by
  cases hrate : rateFile s path with
  | error fault =>
    obtain ⟨hconsole, houtput, htree, hrefuses, hcrash⟩ := perform_of_fault hargs hcommand hrate
    obtain ⟨hperformed, -, -⟩ := Consoles.carryOut_ending_eq_ok_iff.1 hending
    obtain ⟨hsaid, hprinted, hleft⟩ := Consoles.carryOut_of_ending hending
    rw [hconsole] at hprinted
    -- a fault that is not foreseen ends the program without a code
    have hforeseen : ∃ message, fault.foreseen = .ok message := by
      by_contra hnone
      obtain ⟨crash, hends⟩ := hcrash.2 hnone
      cases hends.symm.trans hperformed
    have hcode : code = 2 := Except.ok.inj (hperformed.symm.trans (hrefuses.2 hforeseen).ending)
    refine ⟨fun _ => ⟨hprinted, hsaid.trans houtput, hleft.trans htree⟩, ?_⟩
    exact fun hother => absurd hcode hother
  | ok rating =>
    have hdocument := hrate
    rw [rateFile_eq, bind_eq_ok_iff] at hdocument
    obtain ⟨d, hd, hmapped⟩ := hdocument
    have hrating := mapError_eq_ok_iff.1 hmapped
    have htells := tells_of_rating hwork hargs hcommand hrate
      (isJoined_of_rating (isJoined_of_signalDocument hd) hrating) hending
    refine ⟨?_, fun _ => ⟨d, rating, hd, hrating, htells⟩⟩
    -- a rating never gives the code two
    intro hcode
    rcases htells.known with hknown | hknown
    all_goals omega

end

/-! ## Bundles with a warning -/

/-- The signals of a token with a warning, which may be a honeypot. -/
def warnedSignals (honeypot : Bool) (warning : RawText) : Signals :=
  { quietSignals with honeypot, warnings := [warning] }

/-- The bundle of that token. -/
def warnedBundle (honeypot : Bool) (warning : RawText) : Document :=
  .object
    [ ("honeypot", .bool honeypot),
      ("sellTax", .text (RawText.ofString "5%")),
      ("buyTax", .text (RawText.ofString "2%")),
      ("topHolderShare", .text (RawText.ofString "25%")),
      ("liquidityLocked", .bool true),
      ("liquidityLockShare", .text (RawText.ofString "70%")),
      ("verified", .bool true),
      ("warnings", .texts [warning]) ]

section

variable {honeypot : Bool} {warning : RawText}

/-- The bundle is rated by its signals. -/
theorem rating_warnedBundle :
    (warnedBundle honeypot warning).toDatum.rating =
      .ok (warnedSignals honeypot warning).rating := by
  have hdatum : (warnedBundle honeypot warning).toDatum =
      (warnedSignals honeypot warning).toDatum := rfl
  rw [hdatum, Datum.rating, Signals.ofDatum_toDatum]
  rfl

/-- The bundle can be read back if its warning can. -/
theorem legible_warnedBundle (h : warning.IsJoined) :
    Document.Legible 2 (warnedBundle honeypot warning) := by
  have htext : ∀ s : String, Document.Legible 1 (.text s) := Document.legible_string
  have hbool : ∀ b, Document.Legible 1 (.bool b) := fun b =>
    .scalar (Document.readsBack_bool b)
  have hwarnings : Document.Legible 1 (.texts [warning]) :=
    Document.legible_texts (List.forall_mem_singleton.2 h)
  apply Document.Legible.object
  simp only [List.forall_mem_cons]
  exact ⟨hbool _, htext _, htext _, htext _, hbool _, htext _, hbool _, hwarnings, nofun⟩

/-- A situation with the bundle in a signal file. -/
def warnedSituation (honeypot : Bool) (warning : RawText) : Situation :=
  signalSituation (warnedBundle honeypot warning).print

/-- The words that ask for a rating of the signal file and for its export. -/
def ratingWords : List String :=
  ["signals", "s.json", "--json-output", "r.json"]

/-- What those words do on consoles without styles. -/
def warnedSession (honeypot : Bool) (warning : RawText) : Session :=
  Consoles.carryOut ⟨.plain, .plain⟩ (warnedSituation honeypot warning) ratingWords

set_option maxRecDepth 4000 in
/-- They are read as that request. -/
theorem readArguments_ratingWords :
    CommandLine.readArguments ratingWords = .ok ⟨.signals "s.json", .given "r.json", false⟩ := by
  rfl

/-- The folder from which the words are said is there. -/
theorem hasFolder_warnedSituation :
    (warnedSituation honeypot warning).tree.HasFolder
      (warnedSituation honeypot warning).tree.workingFolder :=
  FileTree.single_hasFolder

/-- The bundle is what the signal file holds. -/
theorem signalDocument_warnedSituation (h : warning.IsJoined) :
    (warnedSituation honeypot warning).tree.signalDocument 990 "s.json" =
      .ok (warnedBundle honeypot warning) :=
  signalDocument_of_contentAt (legible_warnedBundle h) (by decide) (contentAt_signalSituation _)

/-- The signal file is rated by the signals of the token. -/
theorem rateFile_warnedSituation (honeypot : Bool) (h : warning.IsJoined) :
    rateFile (warnedSituation honeypot warning) "s.json" =
      .ok (warnedSignals honeypot warning).rating := by
  rw [rateFile_eq, bind_eq_ok_iff]
  exact ⟨_, signalDocument_warnedSituation h, mapError_eq_ok_iff.2 rating_warnedBundle⟩

/-- The words end with the code of the rating, if the console takes what is shown of it. -/
theorem warnedSession_ending (honeypot : Bool) (h : warning.IsJoined)
    (htaken : Display.Console.plain.refusal?
      (Display.ratingItems (warnedSignals honeypot warning).rating) = none) :
    (warnedSession honeypot warning).ending =
      .ok (exitCode ((warnedSignals honeypot warning).rating.level = .high)) := by
  obtain ⟨hconsole, -, hends, hexports⟩ :=
    perform_of_rating readArguments_ratingWords rfl (rateFile_warnedSituation honeypot h)
  have hexport : (warnedSituation honeypot warning).CanExport (.given "r.json") := by
    rintro target htarget
    cases htarget
    have htime : Clock.timestamp .zero = .ok "1970-01-01T00:00:00+00:00" := by decide +kernel
    exact ⟨⟨_, htime⟩, FileTree.exists_store_single (by decide) (by decide)⟩
  apply Consoles.carryOut_ending_eq_ok_iff.2
  refine ⟨(hends _).2 ⟨rfl, hexport⟩, ?_, ?_⟩
  · rw [hconsole]
    exact htaken
  · rw [(hexports hexport).2]
    decide +kernel

end

/-- A warning with quotes, a line feed and a character of two units. -/
def oddWarning : RawText :=
  ⟨(RawText.ofString "\x22Beware\x22\n").points ++ [0x1f36f]⟩

/-- The reason that the share of the top holder gives. -/
def holderReason : RawText :=
  ("Top holder owns 25% of supply" : String)

/-- The reasons against a honeypot with that warning. -/
def oddReasons : List RawText :=
  [honeypotReason, oddWarning, holderReason]

/-- The command ends with one; the reasons are printed, and are read back from the file. -/
theorem signal_outputs_agree_odd :
    (warnedSession true oddWarning).ending = .ok 1 ∧
      Display.levelText .high ∈ (warnedSession true oddWarning).printed ∧
      Display.printedReasons (warnedSession true oddWarning).printed = oddReasons ∧
      ∃ d, (warnedSession true oddWarning).tree.signalDocument 990 "r.json" = .ok d ∧
        d.field? "level" = some (.text "HIGH") ∧
        d.field? "reasons" = some (.texts oddReasons) := by
  have hjoined : oddWarning.IsJoined := ⟨by decide, by decide⟩
  have hrating : (warnedSignals true oddWarning).rating.level = .high ∧
      (warnedSignals true oddWarning).rating.reasons = oddReasons := by
    decide +kernel
  have hending : (warnedSession true oddWarning).ending = .ok 1 := by
    have hended := warnedSession_ending true hjoined (by decide +kernel)
    rwa [hrating.1] at hended
  have hagree := signal_outputs_agree_iff hasFolder_warnedSituation readArguments_ratingWords rfl
    hending
  obtain ⟨d, rating, hd, hrated, htells⟩ := hagree.2 (by decide)
  obtain rfl := Except.ok.inj (hd.symm.trans (signalDocument_warnedSituation hjoined))
  obtain rfl := Except.ok.inj (hrated.symm.trans rating_warnedBundle)
  obtain ⟨exported, hread, hlevel, hreasons⟩ := htells.exported "r.json" rfl
  rw [hrating.2] at hreasons
  refine ⟨hending, htells.high.1 rfl, ?_, exported, hread _ (by decide), hlevel.2 rfl, hreasons⟩
  rw [← hrating.2]
  apply htells.ordinary
  rw [hrating.2]
  decide

/-- A warning in tags. -/
def styledWarning : RawText :=
  ("[b]x[/b]" : String)

/-- The text between those tags. -/
def innerWarning : RawText :=
  ("x" : String)

/-- A warning in tags is printed without them, and is read back from the file with them. -/
theorem styled_warning_told_without_tags :
    (warnedSession false styledWarning).ending = .ok 0 ∧
      Display.printedReasons (warnedSession false styledWarning).printed =
        [innerWarning, holderReason] ∧
      ∃ d, (warnedSession false styledWarning).tree.signalDocument 990 "r.json" = .ok d ∧
        d.field? "reasons" = some (.texts [styledWarning, holderReason]) ∧
        styledWarning ≠ innerWarning := by
  have hjoined : styledWarning.IsJoined ∧ holderReason.IsJoined :=
    ⟨⟨by decide, by decide⟩, ⟨by decide, by decide⟩⟩
  have hrating : (warnedSignals false styledWarning).rating.level = .medium ∧
      (warnedSignals false styledWarning).rating.reasons = [styledWarning, holderReason] := by
    decide +kernel
  have hending : (warnedSession false styledWarning).ending = .ok 0 := by
    have hended := warnedSession_ending false hjoined.1 (by decide +kernel)
    rwa [hrating.1] at hended
  have htells : (warnedSession false styledWarning).Tells .plain _ 0 (.given "r.json") :=
    tells_of_rating hasFolder_warnedSituation readArguments_ratingWords rfl
      (rateFile_warnedSituation false hjoined.1) (by simp [hrating.2, hjoined]) hending
  obtain ⟨d, hread, -, hreasons⟩ := htells.exported "r.json" rfl
  have hlines := htells.lines
  rw [hrating.2] at hreasons hlines
  refine ⟨hending, Display.told_unique hlines (.cons ?_ (.cons ?_ .nil)), d,
    hread _ (by decide), hreasons, by decide⟩
  · have hshown : Display.Console.plain.print (.line (Display.reasonText styledWarning)) =
        .ok (Display.reasonText innerWarning) := by
      decide +kernel
    exact hshown
  · exact Display.print_ordinary_reason .plain (by decide)

end TokenAudit
