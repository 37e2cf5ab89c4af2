import ViewPoints.Proofs.CommandLine.Colors
import ViewPoints.Proofs.CommandLine.Groups
import ViewPoints.Proofs.CommandLine.Tallies
import ViewPoints.Proofs.Diagnostic
import ViewPoints.Proofs.Text.Digits

/-!
What a summary says is in its lines. Colour adds nothing but escape sequences, as long as there is
no escape in what is shown, and the switches for it change nothing else.
-/

namespace ViewPoints

/-! ### The strings that are shown -/

def Dataset.strings (d : Dataset) : List String := d.name :: d.label :: d.filename.toList

def Diagnostic.strings : Diagnostic → List String
  | unknownDeviation number key => [number, key]
  | malformedPreamble text => [text]
  | unknownReportedField number field => number :: field.toList
  | unknownUnexpectedValue number value => number :: value.toList
  | invalidTimeOffset line => [line]

def Context.strings (c : Context) : List String :=
  c.aocVersion.toList ++ c.timeNow.toList ++ c.reference.strings ++ c.test.strings

/-- The strings of a conversion that may show in its summary. -/
def Conversion.strings (c : Conversion) : List String :=
  c.document.context.strings ++ c.diagnostics.toList.flatMap Diagnostic.strings

namespace CommandLine

/-! ### Texts without an escape -/

lemma escape_not_mem_toDigits (n : ℕ) : escape ∉ Nat.toDigits 10 n :=
  fun h => absurd (Text.isPlainDigit_of_mem_toDigits h) (by decide)

lemma escape_not_mem_replicate {c : Char} (hc : escape ≠ c) (n : ℕ) :
    escape ∉ List.replicate n c :=
  fun h => hc (List.eq_of_mem_replicate h)

lemma unescaped_repr (n : ℕ) : Unescaped n.repr := by
  rw [Unescaped, Nat.toList_repr]
  exact escape_not_mem_toDigits n

lemma unescaped_padLeft {s : String} (h : Unescaped s) (width : ℕ) :
    Unescaped (padLeft width s) := by
  rw [Unescaped, padLeft, String.toList_ofList, List.mem_append, not_or]
  exact ⟨escape_not_mem_replicate (by decide) _, h⟩

lemma unescaped_padRight {s : String} (h : Unescaped s) (width : ℕ) :
    Unescaped (padRight width s) := by
  rw [Unescaped, padRight, String.toList_ofList, List.mem_append, not_or]
  exact ⟨h, escape_not_mem_replicate (by decide) _⟩

lemma unescaped_secondsText (x : Float) : Unescaped (secondsText x) := by
  have hdigits : ∀ n, escape ∉ Decimal.natChars n := escape_not_mem_toDigits
  have hzeros : ∀ n, escape ∉ Decimal.zeroDigits n := escape_not_mem_replicate (by decide)
  have hsign (negative : Bool) : escape ∉ Decimal.signChars negative := by
    cases negative <;> decide
  rw [Unescaped, secondsText, Decimal.fixed, String.toList_ofList, Decimal.fixedChars]
  split
  · decide
  · exact List.not_mem_append (hsign _) (by decide)
  · refine List.not_mem_append (List.not_mem_append (hsign _) (hdigits _)) ?_
    rw [if_neg (by decide)]
    exact List.not_mem_append (List.not_mem_cons_of_ne_of_not_mem (by decide) (hzeros _))
      (hdigits _)

lemma unescaped_identityText (i : SensorIdentity) : Unescaped (identityText i) := by
  have hdigit : ∀ n < 16, escape ≠ hexDigit n := by decide
  have hbyte (b : UInt8) : Unescaped (hexByte b) := by
    have hb := b.toNat_lt
    rw [Unescaped, hexByte, String.toList_ofList]
    simp [hdigit (b.toNat / 16) (by omega), hdigit (b.toNat % 16) (by omega)]
  rw [identityText, unescaped_append, unescaped_append]
  exact ⟨⟨hbyte _, by decide⟩, hbyte _⟩

lemma unescaped_label (kind : ViewPointKind) : Unescaped kind.label := by
  cases kind with
  | unmatched owner d => cases owner <;> cases d <;> decide
  | shortTrack => decide
  | content kind => cases kind <;> decide

lemma unescaped_getD {o : Option String} {s : String} (ho : ∀ a ∈ o, Unescaped a)
    (hs : Unescaped s) : Unescaped (o.getD s) := by
  cases o with
  | none => exact hs
  | some a => exact ho a rfl

lemma unescaped_firstLine {text : String} (h : Unescaped text) :
    Unescaped (Text.firstLine text) := by
  rw [Text.firstLine]
  cases hl : Text.lines text with
  | nil => decide
  | cons line _ =>
    exact fun he => h (Text.mem_of_mem_lines (by rw [hl]; exact List.mem_cons_self) he)

/-- The messages have no escape of their own. -/
lemma unescaped_message {d : Diagnostic} (h : ∀ s ∈ d.strings, Unescaped s) :
    Unescaped d.message := by
  unfold Diagnostic.message
  cases d with
  | unknownDeviation number key =>
    simp only [unescaped_append, h number (by simp [Diagnostic.strings]),
      h key (by simp [Diagnostic.strings])]
    decide
  | malformedPreamble text =>
    simp only [unescaped_append,
      unescaped_firstLine (h text (by simp [Diagnostic.strings]))]
    decide
  | unknownReportedField number field =>
    have hn := h number (by simp [Diagnostic.strings])
    cases field with
    | none =>
      simp only [unescaped_append, hn]
      decide
    | some field =>
      simp only [unescaped_append, hn, h field (by simp [Diagnostic.strings])]
      decide
  | unknownUnexpectedValue number value =>
    have hn := h number (by simp [Diagnostic.strings])
    cases value with
    | none =>
      simp only [unescaped_append, hn]
      decide
    | some value =>
      simp only [unescaped_append, hn, h value (by simp [Diagnostic.strings])]
      decide
  | invalidTimeOffset line =>
    simp only [unescaped_append, h line (by simp [Diagnostic.strings])]
    decide

/-! ### Pieces without an escape -/

lemma clean_endLine : Clean endLine := clean_plain.2 (by decide)

lemma clean_title {s : String} (h : Unescaped s) : Clean (title s) := by
  simp only [title, clean_endLine, clean_append, clean_plain, clean_styled, h]
  decide

lemma clean_datasetLines {d : Dataset} (h : ∀ s ∈ d.strings, Unescaped s) :
    Clean (datasetLines d) := by
  have hname := unescaped_padRight (h d.name (by simp [Dataset.strings])) nameWidth
  have hlabel := h d.label (by simp [Dataset.strings])
  have hfile : Unescaped (d.filename.getD "-") :=
    unescaped_getD (fun a ha => h a (by simp [Dataset.strings, Option.mem_def.1 ha])) (by decide)
  have hsensor : Unescaped ((d.sensorIdentity.map identityText).getD "-") := by
    refine unescaped_getD (fun a ha => ?_) (by decide)
    obtain ⟨i, -, rfl⟩ := Option.map_eq_some_iff.1 ha
    exact unescaped_identityText i
  have hwindow : Unescaped ((d.window.map fun w =>
      secondsText w.start ++ ".." ++ secondsText w.stop).getD "-") := by
    refine unescaped_getD (fun a ha => ?_) (by decide)
    obtain ⟨w, -, rfl⟩ := Option.map_eq_some_iff.1 ha
    simp only [unescaped_append, unescaped_secondsText]
    decide
  simp only [datasetLines, clean_endLine, clean_append, clean_plain, clean_styled, unescaped_append,
    hname, hlabel, hfile, hsensor, hwindow]
  refine ⟨by decide, ?_⟩
  -- there is a second line only if the identity was overridden
  split
  next i _ =>
    simp only [clean_endLine, clean_append, clean_plain, clean_styled, unescaped_append,
      unescaped_padRight (show Unescaped "" by decide), unescaped_identityText]
    decide
  next => exact List.forall_mem_nil _

lemma clean_contextLines {c : Context} (h : ∀ s ∈ c.strings, Unescaped s) :
    Clean (contextLines c) := by
  have hversion : Unescaped (c.aocVersion.getD "?") :=
    unescaped_getD (fun a ha => h a (by simp [Context.strings, Option.mem_def.1 ha])) (by decide)
  have hnow : Unescaped (c.timeNow.getD "?") :=
    unescaped_getD (fun a ha => h a (by simp [Context.strings, Option.mem_def.1 ha])) (by decide)
  have hreference : Clean (datasetLines c.reference) :=
    clean_datasetLines fun s hs => h s (by simp [Context.strings, hs])
  have htest : Clean (datasetLines c.test) :=
    clean_datasetLines fun s hs => h s (by simp [Context.strings, hs])
  have htitle : Clean (title "━━━ Context ━━━") := clean_title (by decide)
  simp only [contextLines, clean_endLine, clean_append, clean_plain, clean_styled, htitle, hversion,
    hnow, hreference, htest]
  refine ⟨by decide, ?_⟩
  split
  · simp only [clean_endLine, clean_append, clean_plain, clean_styled, unescaped_append,
      unescaped_secondsText]
    decide
  · simp only [clean_endLine, clean_append, clean_plain, clean_styled]
    decide

lemma clean_viewPointLines (l : List ViewPoint) : Clean (viewPointLines l) := by
  have hcount (n : ℕ) : Unescaped (countText n) := unescaped_padLeft (unescaped_repr n) 5
  have htitle : Clean (title "━━━ View Points ━━━") := clean_title (by decide)
  have htally : Clean ((tally l).entries.flatMap countLine) := by
    refine clean_flatMap fun e he => ?_
    obtain ⟨v, -, hv⟩ := mem_keys_tally.1 (List.mem_map_of_mem he)
    have hlabel : Unescaped e.1 := hv ▸ unescaped_label v.kind
    simp only [countLine, clean_endLine, clean_append, clean_plain, clean_styled, hcount, hlabel]
    decide
  have hmiddle : Clean (if l.isEmpty then styled .dim "  No view points produced" ++ endLine
      else (tally l).entries.flatMap countLine) := by
    split_ifs
    · simp only [clean_endLine, clean_append, clean_styled]
      decide
    · exact htally
  simp only [viewPointLines, clean_endLine, clean_append, clean_plain, clean_styled, htitle, hcount,
    hmiddle]
  decide

lemma clean_diagnosticLines {l : List Diagnostic}
    (h : ∀ s ∈ l.flatMap Diagnostic.strings, Unescaped s) : Clean (diagnosticLines l) := by
  rw [diagnosticLines]
  split_ifs
  · exact List.forall_mem_nil _
  · refine clean_append.2 ⟨clean_title (by decide), clean_flatMap fun d hd => ?_⟩
    have hmessage := unescaped_message fun s hs => h s (List.mem_flatMap.2 ⟨d, hd, hs⟩)
    simp only [diagnosticLine, clean_endLine, clean_append, clean_plain, clean_styled, unescaped_append,
      hmessage]
    decide

lemma clean_summary {output : String} {c : Conversion}
    (h : ∀ s ∈ output :: c.strings, Unescaped s) : Clean (summary output c) := by
  have hwrote : Clean [{ text := "⚙  Wrote: " ++ output, styles := [.cyan, .bold] }] :=
    List.forall_mem_singleton.2
      (unescaped_append.2 ⟨by decide, h output List.mem_cons_self⟩)
  have hcontext : Clean (contextLines c.document.context) :=
    clean_contextLines fun s hs => h s (by simp [Conversion.strings, hs])
  have hdiagnostics : Clean (diagnosticLines c.diagnostics.toList) :=
    clean_diagnosticLines fun s hs =>
      h s (List.mem_cons_of_mem _ (List.mem_append_right _ hs))
  simp only [summary, clean_endLine, clean_append, clean_plain, hwrote, hcontext, clean_viewPointLines,
    hdiagnostics]
  decide

/-! ### The switches for colour -/

namespace Draft

variable {d : Draft} {a : String} {args : List String} {s : Settings}

lemma ne_convert_of_meaning {r : Request} (h : meaning a = .request r) (s : Settings) :
    r ≠ .convert s := by
  unfold meaning at h
  split at h
  · cases h
    simp
  · split at h
    · cases h
      simp
    · split at h <;> cases h

/-- Arguments that ask for a conversion can be followed by more. -/
lemma exists_of_read (h : d.read args = .ok (.convert s)) :
    ∃ d' : Draft, d'.finish = .ok (.convert s) ∧ ∀ rest, d.read (args ++ rest) = d'.read rest := by
  fun_induction read d args with
  | case1 d => exact ⟨d, h, fun _ => rfl⟩
  | case2 d a args r hm => exact absurd (Except.ok.inj h) (ne_convert_of_meaning hm s)
  | case3 d a args f hm ih =>
    obtain ⟨d', hd, hread⟩ := ih h
    refine ⟨d', hd, fun rest => ?_⟩
    rw [List.cons_append, read, hm]
    exact hread rest
  | case4 d a f hm => cases h
  | case5 d a f hm v args ih =>
    obtain ⟨d', hd, hread⟩ := ih h
    refine ⟨d', hd, fun rest => ?_⟩
    rw [List.cons_append, List.cons_append, read, hm]
    exact hread rest
  | case6 d a args hm => cases h

lemma finish_color (h : d.finish = .ok (.convert s)) (on : Bool) :
    (d.set (.color on)).finish = .ok (.convert { s with color := on }) := by
  obtain ⟨helper?, runLog?, output, options, summary, color⟩ := d
  cases helper? <;> cases runLog? <;> cases h
  rfl

end Draft

/-! ### Summaries -/

/-- A switch for colour may be added to arguments that ask for a conversion. -/
lemma parse_append_color {terminal : Bool} {args : List String} {s : Settings}
    (h : parse terminal args = .ok (.convert s)) (on : Bool) :
    parse terminal (args ++ (Group.color on).words) = .ok (.convert { s with color := on }) := by
  obtain ⟨d, hd, hread⟩ := Draft.exists_of_read h
  rw [parse, hread, ← List.append_nil (Group.words _), Draft.read_words]
  exact Draft.finish_color hd on

lemma forall₂_says (l : List Diagnostic) :
    List.Forall₂ Diagnostic.Says l (l.map Diagnostic.message) :=
  List.forall₂_map_right_iff.2 (List.forall₂_same.2 fun d _ => d.says_message)

/-- The summary of a conversion has a line for each label of its view points, in the byte order of
the labels, with the number of view points that have it. The numbers add up to the total below them.
A line for each diagnostic follows, in order, which says what it is about. Colour adds sequences for
styles and nothing else. The last of the switches decides whether there is colour. -/
theorem summary_faithful (output : String) (c : Conversion) :
    (∃ entries messages, Tallies c.document.viewPoints.toList entries ∧
      List.Forall₂ Diagnostic.Says c.diagnostics.toList messages ∧ ∀ color,
        render color (summary output c) = render color (opening output c) ++ Block.unlines
          (viewPointSection color entries c.document.viewPoints.size ++
            diagnosticSection color messages ++ [""])) ∧
    ((∀ s ∈ output :: c.strings, Unescaped s) →
      withoutStyles (render true (summary output c)) = render false (summary output c)) ∧
    ∀ terminal args s, parse terminal args = .ok (.convert s) → s.summary = true →
      s.output = output → ∀ on warnings,
        parse terminal (args ++ (Group.color on).words) = .ok (.convert { s with color := on }) ∧
        (report { s with color := on } ⟨warnings, .ok c⟩).stdout =
          render on (summary output c) := by
  refine ⟨⟨_, _, tallies_tally _, forall₂_says _, fun color => ?_⟩,
    fun h => withoutStyles_render (clean_summary h),
    fun terminal args s h hs ho on warnings => ⟨parse_append_color h on, ?_⟩⟩
  · rw [render_summary, Array.length_toList]
  · rw [report, ← ho]
    exact if_pos hs

/-- Three view points with two labels, a kind of deviation that is not known, and a header that is
none. The switch comes after another one, which it overrules. -/
theorem summary_faithful_overruled : ∃ c entries messages,
    Conversion.ofTexts {} ("DEV #1: Missing reference\nDEV #2: Extra test\n" ++
      "DEV #3: Missing reference\nDEV #4: Odd one\nDEV\r\n") "" = .ok c ∧
    Tallies c.document.viewPoints.toList entries ∧ (entries.map Prod.snd).sum = 3 ∧
    List.Forall₂ Diagnostic.Says
      [.unknownDeviation "4" "Odd one", .malformedPreamble "DEV\n"] messages ∧
    (∀ s ∈ "out.json" :: c.strings, Unescaped s) ∧
    withoutStyles (render true (summary "out.json" c)) = render false (summary "out.json" c) ∧
    ∃ s, parse false ["-ah", "h", "-ao", "r", "-o", "out.json", "--summary", "--color",
        "--no-color"] = .ok (.convert s) ∧
      (report s ⟨[], .ok c⟩).stdout = render false (summary "out.json" c) := by
  obtain ⟨c, hc, hsize⟩ := exists_ok_of_toOption (show (Conversion.ofTexts {}
    ("DEV #1: Missing reference\nDEV #2: Extra test\n" ++
      "DEV #3: Missing reference\nDEV #4: Odd one\nDEV\r\n") "").toOption.map (fun c =>
        (c.document.viewPoints.toList.length, c.diagnostics.toList, c.document.context.strings)) =
      some (3, [.unknownDeviation "4" "Odd one", .malformedPreamble "DEV\n"],
        ["reference_run", "REF", "test_run", "TST"]) by decide +kernel)
  obtain ⟨hlength, hd⟩ := Prod.mk.inj hsize
  obtain ⟨hdiagnostics, hcontext⟩ := Prod.mk.inj hd
  obtain ⟨⟨entries, messages, ht, hm, -⟩, hcolor, hparse⟩ := summary_faithful "out.json" c
  have hu : ∀ s ∈ "out.json" :: c.strings, Unescaped s := by
    rw [Conversion.strings, hcontext, hdiagnostics]
    decide
  have hs : parse false ["-ah", "h", "-ao", "r", "-o", "out.json", "--summary", "--color"] =
      .ok (.convert ⟨"h", "r", "out.json", {}, true, true⟩) := by decide +kernel
  obtain ⟨hswitch, hreport⟩ := hparse _ _ _ hs rfl rfl false []
  exact ⟨c, entries, messages, hc, ht, ht.total.trans hlength, hdiagnostics ▸ hm, hu, hcolor hu, _,
    hswitch, hreport⟩

end CommandLine

end ViewPoints
