import TokenAudit.Proofs.Audit.Ids
import TokenAudit.Proofs.Scan.Words
import TokenAudit.Proofs.Text.Ascii

/-!
# Sources that are no text

A source may be given as bytes, well-formed or not. Its ASCII bytes stay what they are and stay
together, so the lines are counted right and no word that a rule looks for is hidden by what stands
around it. The bytes of a text are audited as the text itself.
-/

set_option autoImplicit false

namespace TokenAudit

open Text.Utf8 (charOfByte decodeLossy encode)

/-- Decoding neither adds nor drops a line feed, whatever the bytes. -/
theorem count_newline_decodeLossy (bytes : List UInt8) :
    (decodeLossy bytes).count '\n' = bytes.count 0x0a :=
  Text.Utf8.count_decodeLossy (b := 0x0a) (by decide) bytes

/-- So the summary of what is decoded counts one line more than there are line feed bytes. -/
theorem linesOfCode_decodeLossy (bytes : List UInt8) (findings : List Finding) :
    (summarize (decodeLossy bytes) findings).linesOfCode = 1 + bytes.count 0x0a := by
  have hlines : (summarize (decodeLossy bytes) findings).linesOfCode =
      ((decodeLossy bytes).count '\n' + 1 : Nat) := rfl
  rw [hlines, count_newline_decodeLossy]
  omega

/-- A word that a built-in rule looks for is found in whatever bytes it stands. -/
theorem exists_reports_in_bytes {now : Binary64} (hnow : Clock.Shows now) {key w : String}
    (hsought : (key, w) ∈ soughtWords) {word : List Char}
    (hword : word.map Text.fold = w.toList.map Text.fold) (before after : List UInt8) :
    ∃ n, n ≤ 1 + before.count 0x0a ∧
      builtinCatalog.Reports now (decodeLossy (before ++ encode word ++ after)) key (some n) := by
  have hne : word ≠ [] := by
    rintro rfl
    have hempty := List.map_eq_nil_iff.1 hword.symm
    exact soughtWords_ne_nil (key, w) hsought hempty
  rw [Text.Utf8.decodeLossy_around_encode hne, ← count_newline_decodeLossy]
  exact exists_reports_of_soughtWord hnow hsought hword (decodeLossy before) (decodeLossy after)

/-- A text and its encoding are audited to the same report, but for ids. -/
theorem auditValue_encode_agree (severity : Grade) (path : String) (text : String)
    {now now' : Binary64} (hnow : Clock.Shows now) (hnow' : Clock.Shows now') :
    ∃ a a' r r', AuditPlan.auditValue ⟨builtinCatalog, severity, now⟩ path (.text text) = .ok a ∧
      AuditPlan.auditValue ⟨builtinCatalog, severity, now'⟩ path (.bytes (encode text.toList)) =
        .ok a' ∧
      a.report = .ok r ∧ a'.report = .ok r' ∧ r'.withoutIds = r.withoutIds := by
  obtain ⟨r, r', hr, hr', hsame⟩ := audit_builtin_agree severity path text.toList hnow hnow'
  refine ⟨_, _, r, r', ?_, ?_, hr, hr', hsame⟩
  · rw [AuditPlan.auditValue, Datum.sourceText, RawText.chars_ofString]
    rfl
  · rw [AuditPlan.auditValue, Datum.sourceText, Text.Utf8.decodeLossy_encode]
    rfl

/-- Bytes, well-formed or not, are scanned and summarized as one text, whose ASCII characters are
the ASCII bytes in their order, together where the bytes stand together. Its lines are counted by
the line feeds among the bytes. Wherever the bytes hold a word that a built-in rule looks for, in
any letter case, the rule is reported, with a line no further down than the word. And when they are
the encoding of a text, the audit of the bytes and that of the text differ at most in ids. -/
theorem malformed_bytes_hide_nothing (bytes : List UInt8) {now now' : Binary64}
    (hnow : Clock.Shows now) (hnow' : Clock.Shows now') :
    ∃ text, (Datum.bytes bytes).sourceText = .ok text ∧ (Datum.bytes bytes).scannedText = text ∧
      text.filter (·.toNat < 0x80) = (bytes.filter (·.toNat < 0x80)).map charOfByte ∧
      (∀ before run after, bytes = before ++ run ++ after → run ≠ [] →
        (∀ b ∈ run, b.toNat < 0x80) →
          text = decodeLossy before ++ run.map charOfByte ++ decodeLossy after) ∧
      (∀ findings, (summarize text findings).linesOfCode = 1 + bytes.count 0x0a) ∧
      (∀ key w, (key, w) ∈ soughtWords → ∀ before word after,
        bytes = before ++ encode word ++ after → word.map Text.fold = w.toList.map Text.fold →
          ∃ n, n ≤ 1 + before.count 0x0a ∧ builtinCatalog.Reports now text key (some n)) ∧
      (∀ severity path, ∀ t : String, bytes = encode t.toList →
        ∃ a a' r r', AuditPlan.auditValue ⟨builtinCatalog, severity, now⟩ path (.text t) = .ok a ∧
          AuditPlan.auditValue ⟨builtinCatalog, severity, now'⟩ path (.bytes bytes) = .ok a' ∧
          a.report = .ok r ∧ a'.report = .ok r' ∧ r'.withoutIds = r.withoutIds) := by
  refine ⟨decodeLossy bytes, rfl, rfl, Text.Utf8.decodeLossy_ascii bytes, ?_,
    linesOfCode_decodeLossy bytes, ?_, ?_⟩
  · rintro before run after rfl hne hrun
    exact Text.Utf8.decodeLossy_around_ascii hrun hne before after
  · rintro key w hsought before word after rfl hword
    exact exists_reports_in_bytes hnow hsought hword before after
  · rintro severity path t rfl
    exact auditValue_encode_agree severity path t hnow hnow'

/-- Two lines, the second of them with `TX.origin` between the first byte of a character that is
broken off and the beginning of a surrogate. -/
def brokenOrigin : List UInt8 :=
  [0xff, 0x0a, 0xe2, 0x82] ++ encode "TX.origin".toList ++ [0xed, 0xa0, 0x80]

/-- The word is found behind what breaks off, and on its line. -/
theorem malformed_bytes_hide_nothing_brokenOrigin :
    Clock.Shows .zero ∧ ∃ text, (Datum.bytes brokenOrigin).scannedText = text ∧
      (summarize text []).linesOfCode = 2 ∧
      ∃ n, n ≤ 2 ∧ builtinCatalog.Reports .zero text "tx_origin" (some n) := by
  have hnow : Clock.Shows .zero := ⟨0, by decide +kernel⟩
  obtain ⟨text, -, hscanned, -, -, hlines, hwords, -⟩ :=
    malformed_bytes_hide_nothing brokenOrigin hnow hnow
  have hfound := hwords "tx_origin" "tx.origin" (by decide) [0xff, 0x0a, 0xe2, 0x82]
    "TX.origin".toList [0xed, 0xa0, 0x80] rfl (by decide +kernel)
  have hcount : brokenOrigin.count 0x0a = 1 := by decide +kernel
  refine ⟨hnow, text, hscanned, ?_, hfound⟩
  rw [hlines, hcount]
  rfl

end TokenAudit
