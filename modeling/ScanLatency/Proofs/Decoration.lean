import ScanLatency.Console.Report

/-! What colors add to the console: sequences that select renditions, and nothing else, as long as
the texts to be shown have no escape character of their own. The numerals and names that the program
writes have none, and lowercase letters bring none in. Only the title of the summary is not the same
text with colors and without: it loses its colon. -/
namespace ScanLatency.Console
open Number

/-! ### Leaving renditions out -/

/-- What stands between the bracket of a rendition and its end: digits, and what separates them. -/
def isParameter (c : Char) : Bool := '0' ≤ c && c ≤ '?'

/-- What follows the sequence that selects a rendition, if a text starts with one. -/
def afterRendition : List Char → Option (List Char)
  | '\x1b' :: '[' :: rest =>
    match rest.dropWhile isParameter with
    | 'm' :: tail => some tail
    | _ => none
  | _ => none

theorem length_afterRendition {cs tail : List Char} (h : afterRendition cs = some tail) :
    tail.length < cs.length := by
  unfold afterRendition at h
  split at h
  next rest =>
    split at h
    next heq =>
      cases h
      have hle := (List.dropWhile_sublist isParameter (l := rest)).length_le
      rw [heq, List.length_cons] at hle
      rw [List.length_cons, List.length_cons]
      omega
    next => cases h
  next => cases h

/-- The characters of a text without the sequences that select renditions. -/
def withoutRenditions (cs : List Char) : List Char :=
  match cs with
  | [] => []
  | c :: rest =>
    match _h : afterRendition (c :: rest) with
    | some tail => withoutRenditions tail
    | none => c :: withoutRenditions rest
termination_by cs.length
decreasing_by
  · exact length_afterRendition _h
  · exact Nat.lt_succ_self _

def undecorated (text : String) : String := String.ofList (withoutRenditions text.toList)

def Harmless (text : String) : Prop := '\x1b' ∉ text.toList

instance (text : String) : Decidable (Harmless text) := inferInstanceAs (Decidable (¬_))

theorem withoutRenditions_nil : withoutRenditions [] = [] := by rw [withoutRenditions]

theorem withoutRenditions_of_some {cs tail : List Char} (h : afterRendition cs = some tail) :
    withoutRenditions cs = withoutRenditions tail := by
  cases cs with
  | nil => cases h
  | cons c rest =>
    rw [withoutRenditions]
    split
    next heq =>
      rw [heq] at h
      cases h
      rfl
    next heq =>
      rw [heq] at h
      cases h

theorem withoutRenditions_cons {c : Char} (hc : c ≠ '\x1b') (rest : List Char) :
    withoutRenditions (c :: rest) = c :: withoutRenditions rest := by
  have hnone : afterRendition (c :: rest) = none := by
    unfold afterRendition
    split
    next heq => exact absurd (List.cons.inj heq).1 hc
    next => rfl
  rw [withoutRenditions]
  split
  next heq =>
    rw [hnone] at heq
    cases heq
  next => rfl

theorem withoutRenditions_append {cs : List Char} (hcs : '\x1b' ∉ cs) (rest : List Char) :
    withoutRenditions (cs ++ rest) = cs ++ withoutRenditions rest := by
  induction cs with
  | nil => rfl
  | cons c cs ih =>
    obtain ⟨hc, hrest⟩ := List.ne_and_not_mem_of_not_mem_cons hcs
    rw [List.cons_append, withoutRenditions_cons hc.symm, ih hrest, List.cons_append]

/-- The sequence of a rendition is left out. -/
theorem withoutRenditions_escape {code : String} (hcode : code.toList.all isParameter)
    (rest : List Char) :
    withoutRenditions ((escape code).toList ++ rest) = withoutRenditions rest := by
  have hparameters : (code.toList ++ 'm' :: rest).dropWhile isParameter = 'm' :: rest := by
    rw [List.dropWhile_append_of_pos (List.all_eq_true.1 hcode)]
    rfl
  have hescape : (escape code).toList ++ rest = '\x1b' :: '[' :: (code.toList ++ 'm' :: rest) := by
    simp [escape]
  rw [hescape]
  apply withoutRenditions_of_some
  simp only [afterRendition, hparameters]

theorem withoutRenditions_escapes {codes : List String}
    (hcodes : ∀ code ∈ codes, code.toList.all isParameter) (rest : List Char) :
    withoutRenditions ((String.join (codes.map escape)).toList ++ rest) =
      withoutRenditions rest := by
  induction codes with
  | nil => rfl
  | cons code codes ih =>
    obtain ⟨hcode, hrest⟩ := List.forall_mem_cons.1 hcodes
    rw [List.map_cons, String.join_cons, String.toList_append, List.append_assoc,
      withoutRenditions_escape hcode, ih hrest]

theorem Style.all_isParameter (style : Style) :
    (∀ code ∈ style.codes.1, code.toList.all isParameter) ∧
      ∀ code ∈ style.codes.2, code.toList.all isParameter := by
  cases style <;> decide

/-- A styled text is the text, decorated. -/
theorem Style.withoutRenditions_wrap (style : Style) {text : String} (htext : Harmless text)
    (rest : List Char) : withoutRenditions ((style.wrap text).toList ++ rest) =
      text.toList ++ withoutRenditions rest := by
  obtain ⟨hbefore, hafter⟩ := style.all_isParameter
  rw [wrap, String.toList_append, String.toList_append, List.append_assoc, List.append_assoc,
    withoutRenditions_escapes hbefore, withoutRenditions_append htext,
    withoutRenditions_escapes hafter]

/-! ### Harmless texts -/

@[simp] theorem harmless_append {a b : String} : Harmless (a ++ b) ↔ Harmless a ∧ Harmless b := by
  simp [Harmless]

@[simp] theorem harmless_toString {text : String} : Harmless (toString text) ↔ Harmless text := Iff.rfl

theorem harmless_of_forall {text : String} {p : Char → Bool} (hp : p '\x1b' = false)
    (h : ∀ c ∈ text.toList, p c) : Harmless text := by
  intro hmem
  have hescape := h _ hmem
  rw [hp] at hescape
  cases hescape

@[simp] theorem harmless_repr (n : Nat) : Harmless n.repr := by
  refine harmless_of_forall (p := Char.isDigit) (by decide) fun c hc => ?_
  rw [Nat.toList_repr] at hc
  exact Nat.isDigit_of_mem_toDigits (by decide) (by decide) hc

@[simp] theorem harmless_toString_word (w : UInt64) : Harmless (toString w) :=
  harmless_repr w.toNat

@[simp] theorem harmless_ofList {cs : List Char} : Harmless (String.ofList cs) ↔ '\x1b' ∉ cs := by
  rw [Harmless, String.toList_ofList]

theorem harmless_padded (width n : Nat) : Harmless (FixedPoint.padded width n) := by
  simp [FixedPoint.padded]

@[simp] theorem harmless_fixedText (places : Nat) (x : Binary64) : Harmless (x.fixedText places) := by
  unfold Binary64.fixedText
  split
  next numeral _ =>
    have hsign : Harmless (if numeral.negative then "-" else "") := by split <;> decide
    unfold FixedPoint.text
    simp only
    split
    · simp [hsign]
    · have hpoint : Harmless "." := by decide
      simp [hsign, hpoint, harmless_padded]
  next =>
    unfold Binary64.nonFiniteText
    split
    · decide
    · split <;> decide

@[simp] theorem harmless_hundredths (x : Binary64) : Harmless (hundredths x) := harmless_fixedText 2 x

theorem harmless_intercalate {separator : String} {texts : List String}
    (hseparator : Harmless separator) (h : ∀ text ∈ texts, Harmless text) :
    Harmless (String.intercalate separator texts) := by
  induction texts with
  | nil => exact List.not_mem_nil
  | cons text texts ih =>
    obtain ⟨htext, hrest⟩ := List.forall_mem_cons.1 h
    cases texts with
    | nil => rwa [String.intercalate_singleton]
    | cons next texts =>
      rw [String.intercalate_cons_cons, harmless_append, harmless_append]
      exact ⟨⟨htext, hseparator⟩, ih hrest⟩

/-- The small letter of a harmless character is harmless: no shift of the table leads below it. -/
theorem escape_not_mem_lowercaseChar {c : Char} (hc : c ≠ '\x1b') :
    '\x1b' ∉ Text.lowercaseChar c := by
  have hofNat (n : Nat) (hn : n ≠ 27) : '\x1b' ≠ Char.ofNat n := by
    have hcode : (Char.ofNat n).toNat = n ∨ (Char.ofNat n).toNat = 0 := by
      by_cases hvalid : n.isValidChar
      · rw [Char.ofNat, dif_pos hvalid]
        exact .inl rfl
      · rw [Char.ofNat, dif_neg hvalid]
        exact .inr rfl
    have hescape : '\x1b'.toNat = 27 := rfl
    intro h
    rw [← h] at hcode
    omega
  have htable : Text.lowercaseRanges.all (fun r => decide (27 < (r.first : Int) + r.shift)) = true := by
    decide +kernel
  unfold Text.lowercaseChar
  split
  · decide
  · split
    next r hfind =>
      have hshift := of_decide_eq_true (List.all_eq_true.1 htable r (List.mem_of_find?_eq_some hfind))
      have hcontains := List.find?_some hfind
      simp only [Text.CaseRange.contains, Bool.and_eq_true, decide_eq_true_eq] at hcontains
      rw [List.mem_singleton]
      exact hofNat _ (by omega)
    next => simpa using hc.symm

theorem escape_not_mem_lowercaseFrom {cs : List Char} (h : '\x1b' ∉ cs) (before : List Char) :
    '\x1b' ∉ Text.lowercaseFrom before cs := by
  induction cs generalizing before with
  | nil => exact h
  | cons c rest ih =>
    obtain ⟨hc, hrest⟩ := List.ne_and_not_mem_of_not_mem_cons h
    rw [Text.lowercaseFrom, List.mem_append, not_or]
    refine ⟨?_, ih hrest _⟩
    split
    · unfold Text.smallSigma
      split <;> decide
    · exact escape_not_mem_lowercaseChar hc.symm

theorem harmless_lowercase {text : String} (h : Harmless text) : Harmless (Text.lowercase text) := by
  rw [Text.lowercase, harmless_ofList]
  exact escape_not_mem_lowercaseFrom h []

/-! ### Lines -/

def HarmlessLine (l : Line) : Prop := ∀ span ∈ l, Harmless span.text

theorem withoutRenditions_render {l : Line} (h : HarmlessLine l) (rest : List Char) :
    withoutRenditions ((Line.render true l).toList ++ rest) =
      (Line.render false l).toList ++ withoutRenditions rest := by
  induction l with
  | nil => rfl
  | cons span l ih =>
    obtain ⟨hspan, hrest⟩ := List.forall_mem_cons.1 h
    have htail := ih hrest
    unfold Line.render at htail ⊢
    rw [List.map_cons, List.map_cons, String.join_cons, String.join_cons, String.toList_append,
      String.toList_append, List.append_assoc, List.append_assoc, ← htail]
    exact span.style.withoutRenditions_wrap hspan _

/-- Lines that are printed alike with colors and without, but for the renditions. -/
def Alike (lines : List Line) : Prop := undecorated (printed true lines) = printed false lines

theorem alike_of_harmless {lines : List Line} (h : ∀ l ∈ lines, HarmlessLine l) : Alike lines := by
  have hprinted : withoutRenditions (printed true lines).toList = (printed false lines).toList := by
    induction lines with
    | nil => exact withoutRenditions_nil
    | cons l lines ih =>
      obtain ⟨hline, hrest⟩ := List.forall_mem_cons.1 h
      have htail := ih hrest
      have hend : '\x1b' ∉ "\n".toList := by decide
      unfold printed at htail ⊢
      rw [List.map_cons, List.map_cons, String.join_cons, String.join_cons]
      simp only [String.toList_append, List.append_assoc]
      rw [withoutRenditions_render hline, withoutRenditions_append hend, htail]
  rw [Alike, undecorated, hprinted, String.ofList_toList]

/-! ### What is printed -/

theorem harmless_bannerLines {c : Settings} (hpath : Harmless c.path) :
    ∀ l ∈ bannerLines c, HarmlessLine l := by
  simp only [bannerLines, HarmlessLine, Line.plain, List.forall_mem_cons, harmless_append,
    harmless_toString, harmless_toString_word, hpath]
  decide

theorem harmless_fileLines {path : String} (hpath : Harmless path) (size : UInt64) :
    ∀ l ∈ fileLines path size, HarmlessLine l := by
  have htext (q : ByteQuantity) : Harmless q.text := by
    cases q with
    | exact n => simp +decide [ByteQuantity.text]
    | inUnit number unit =>
      have hsymbol : Harmless unit.symbol := by cases unit <;> decide
      simp +decide [ByteQuantity.text, hsymbol]
  simp +decide [fileLines, HarmlessLine, Line.plain, hpath, htext]

theorem harmless_statisticsText {name : String} (hname : Harmless name)
    (statistics : Option Statistics) : Harmless (statisticsText name statistics) := by
  unfold statisticsText
  split
  · simp only [harmless_append, harmless_toString, hname]
    decide
  · simp only [harmless_append, harmless_toString, harmless_hundredths, Nat.toString_eq_repr,
      harmless_repr, hname]
    decide

theorem harmless_resultLine {label : String} (hlabel : Harmless label)
    (statistics : Option Statistics) : HarmlessLine (resultLine label statistics) := by
  have htext := harmless_statisticsText hlabel statistics
  have hbefore : Harmless (String.ofList
      ((statisticsText label statistics).toList.takeWhile (· ≠ ':'))) :=
    harmless_ofList.2 fun h => htext ((List.takeWhile_sublist _).mem h)
  have hafter : Harmless (String.ofList
      ((statisticsText label statistics).toList.dropWhile (· ≠ ':'))) :=
    harmless_ofList.2 fun h => htext ((List.dropWhile_sublist _).mem h)
  intro span hspan
  simp only [resultLine, List.mem_cons, List.not_mem_nil, or_false] at hspan
  rcases hspan with rfl | rfl
  · exact hbefore
  · exact hafter

theorem harmless_skipLine {name reason : String} (hname : Harmless name) (hreason : Harmless reason) :
    HarmlessLine (skipLine name reason) := by
  have hlowercase := harmless_lowercase hname
  unfold skipLine
  generalize Text.lowercase name = small at hlowercase ⊢
  simp +decide [HarmlessLine, hlowercase, hreason]

theorem harmless_verdictText (v : Verdict) : Harmless (verdictText v) := by
  unfold verdictText
  split
  · simp only [harmless_append, harmless_toString, harmless_hundredths]
    decide
  · simp only [harmless_append, harmless_toString, harmless_hundredths]
    decide
  · decide

theorem harmless_comparisonLines (c : Comparison) : ∀ l ∈ comparisonLines c, HarmlessLine l := by
  have htimed {words : String} (h : Harmless words) (ms : Binary64) :
      HarmlessLine (Line.plain s!"{words}: {hundredths ms} ms") := by
    simp only [HarmlessLine, Line.plain, List.forall_mem_singleton, harmless_append,
      harmless_toString, harmless_hundredths, h]
    decide
  have hverdict : HarmlessLine [⟨verdictText c.verdict, verdictStyle c.verdict⟩] := by
    simpa [HarmlessLine] using harmless_verdictText c.verdict
  simp only [comparisonLines, List.forall_mem_cons]
  exact ⟨htimed (by decide) _, htimed (by decide) _, htimed (by decide) _, htimed (by decide) _,
    htimed (by decide) _, htimed (by decide) _, hverdict, nofun⟩

theorem harmless_repeated {c : Char} (hc : c ≠ '\x1b') (n : Nat) : Harmless (Table.repeated c n) := by
  rw [Table.repeated, harmless_ofList]
  exact fun h => hc (List.eq_of_mem_replicate h).symm

namespace Table

theorem harmless_rule {left stroke joint right : Char}
    (h : '\x1b' ∉ [left, stroke, joint, right]) (widths : List Nat) :
    Harmless (rule left stroke joint right widths) := by
  simp only [List.mem_cons, List.not_mem_nil, or_false, not_or] at h
  obtain ⟨hleft, hstroke, hjoint, hright⟩ := h
  have hone {c : Char} (hc : '\x1b' ≠ c) : Harmless c.toString := by
    simpa [Harmless] using hc
  unfold rule
  rw [harmless_append, harmless_append]
  refine ⟨⟨hone hleft, harmless_intercalate (hone hjoint) ?_⟩, hone hright⟩
  intro text htext
  obtain ⟨w, -, rfl⟩ := List.mem_map.1 htext
  exact harmless_repeated (Ne.symm hstroke) _

theorem harmless_rowText {cells : List String} (h : ∀ cell ∈ cells, Harmless cell)
    (widths : List Nat) : Harmless (rowText widths cells) := by
  have hcells : ∀ text ∈ List.zipWith
      (fun w cell => " " ++ cell ++ repeated ' ' (w - cell.length + 1)) widths cells,
      Harmless text := by
    intro text htext
    rw [← List.map_uncurry_zip_eq_zipWith] at htext
    obtain ⟨⟨w, cell⟩, hmem, rfl⟩ := List.mem_map.1 htext
    have hcell := h cell (List.of_mem_zip hmem).2
    have hblank : Harmless " " := by decide
    show Harmless (" " ++ cell ++ repeated ' ' (w - cell.length + 1))
    rw [harmless_append, harmless_append]
    exact ⟨⟨hblank, hcell⟩, harmless_repeated (by decide) _⟩
  unfold rowText
  rw [harmless_append, harmless_append]
  exact ⟨⟨by decide, harmless_intercalate (by decide) hcells⟩, by decide⟩

theorem harmless_lines {t : Table} (hheading : ∀ cell ∈ t.heading, Harmless cell)
    (hrows : ∀ row ∈ t.rows, ∀ cell ∈ row, Harmless cell) : ∀ text ∈ t.lines, Harmless text := by
  intro text htext
  simp only [lines, List.mem_append, List.mem_cons, List.mem_map, List.not_mem_nil, or_false] at htext
  rcases htext with ((rfl | rfl | rfl) | ⟨row, hrow, rfl⟩) | rfl
  · exact harmless_rule (by decide) _
  · exact harmless_rowText hheading _
  · exact harmless_rule (by decide) _
  · exact harmless_rowText (hrows row hrow) _
  · exact harmless_rule (by decide) _

end Table

theorem harmless_summaryTable (entries : List (PatternKind × Statistics)) :
    ∀ text ∈ (summaryTable entries).lines, Harmless text := by
  have hheading : ∀ cell ∈ ["Pattern", "Samples", "Mean (ns)", "Total (ms)"], Harmless cell := by
    decide
  refine Table.harmless_lines hheading fun row hrow => ?_
  obtain ⟨⟨kind, s⟩, -, rfl⟩ := List.mem_map.1 hrow
  have hkind : Harmless kind.name := by cases kind <;> decide
  simp [summaryRow, hkind]

/-- What the summary shows behind its title. -/
def summaryBody (r : RunReport) (entries : List (PatternKind × Statistics)) : List Line :=
  (summaryTable entries).lines.map Line.plain ++ [[]] ++ comparisonLines r.comparison

theorem harmless_summaryBody (r : RunReport) (entries : List (PatternKind × Statistics)) :
    ∀ l ∈ summaryBody r entries, HarmlessLine l := by
  intro l hl
  simp only [summaryBody, List.mem_append, List.mem_map, List.mem_singleton] at hl
  rcases hl with (⟨text, htext, rfl⟩ | rfl) | hl
  · simpa [HarmlessLine, Line.plain] using harmless_summaryTable entries text htext
  · nofun
  · exact harmless_comparisonLines r.comparison l hl

/-- With colors and without, the summary of a run is its title and the same text behind it. -/
theorem summaryLines_alike (r : RunReport) :
    (∃ abort, ∀ color, summaryLines color r = .error abort) ∨
    ∃ body, (∀ color, summaryLines color r = .ok ([[], summaryTitle color] ++ body)) ∧
      undecorated (printed true ([[], summaryTitle true] ++ body)) =
        "\nFinal durations\n" ++ printed false body ∧
      printed false ([[], summaryTitle false] ++ body) =
        "\nFinal durations:\n" ++ printed false body := by
  cases hentries : summaryEntries r with
  | error abort =>
    refine .inl ⟨abort, fun color => ?_⟩
    rw [summaryLines, hentries]
    rfl
  | ok entries =>
    refine .inr ⟨summaryBody r entries, fun color => ?_, ?_, ?_⟩
    · rw [summaryLines, hentries]
      simp [summaryBody, bind, Except.bind, pure, Except.pure]
    · have htitle : HarmlessLine (summaryTitle true) := by unfold HarmlessLine; decide
      have halike : Alike ([[], summaryTitle true] ++ summaryBody r entries) := by
        refine alike_of_harmless (List.forall_mem_append.2 ⟨?_, harmless_summaryBody r entries⟩)
        exact List.forall_mem_cons.2 ⟨nofun, List.forall_mem_singleton.2 htitle⟩
      rw [halike, printed_append]
      rfl
    · rw [printed_append]
      rfl

/-- The colon of the title tells the two summaries apart. -/
theorem titled_ne (body : String) :
    "\nFinal durations\n" ++ body ≠ "\nFinal durations:\n" ++ body := by
  intro hsame
  have hlength := congrArg String.length hsame
  rw [String.length_append, String.length_append] at hlength
  have htitle : "\nFinal durations\n".length = 17 := by decide
  have hcolon : "\nFinal durations:\n".length = 18 := by decide
  omega

/-- Colors only add renditions to the banner, the line of the file, the lines of results and skips,
and the comparison. The summary, where there is one, is shown alike from its table on; only its
title has a colon without colors and none with them. -/
theorem colors_only_decorate (c : Settings) (path : String) (size : UInt64) (label : String)
    (statistics : Option Statistics) (name reason : String) (compared : Comparison)
    (r : RunReport) :
    (Harmless c.path → Alike (bannerLines c)) ∧
    (Harmless path → Alike (fileLines path size)) ∧
    (Harmless label → Alike [resultLine label statistics]) ∧
    (Harmless name → Harmless reason → Alike [skipLine name reason]) ∧
    Alike (comparisonLines compared) ∧
    ((∃ abort, ∀ color, summaryLines color r = .error abort) ∨
      ∃ colored plain body, summaryLines true r = .ok colored ∧ summaryLines false r = .ok plain ∧
        undecorated (printed true colored) = "\nFinal durations\n" ++ body ∧
        printed false plain = "\nFinal durations:\n" ++ body ∧
        undecorated (printed true colored) ≠ printed false plain) := by
  refine ⟨?banner, ?file, ?result, ?skip, ?comparison, ?summary⟩
  case banner => exact fun hpath => alike_of_harmless (harmless_bannerLines hpath)
  case file => exact fun hpath => alike_of_harmless (harmless_fileLines hpath size)
  case result =>
    intro hlabel
    exact alike_of_harmless (List.forall_mem_singleton.2 (harmless_resultLine hlabel statistics))
  case skip =>
    intro hname hreason
    exact alike_of_harmless (List.forall_mem_singleton.2 (harmless_skipLine hname hreason))
  case comparison => exact alike_of_harmless (harmless_comparisonLines compared)
  case summary =>
    rcases summaryLines_alike r with haborts | ⟨body, hlines, hcolored, hplain⟩
    · exact .inl haborts
    · refine .inr ⟨_, _, _, hlines true, hlines false, hcolored, hplain, ?_⟩
      rw [hcolored, hplain]
      exact titled_ne _

def emptyReport : RunReport := ⟨0, ⟨1, 1⟩, [], [], .ofTotals 1 32 0 0 0 0, none, false⟩

/-- A label with two colons and a name with a capital sigma at its end. -/
theorem colors_only_decorate_two_colons :
    Harmless "Stride: reads=2" ∧ Harmless "ΣΑΣ" ∧ Harmless "file too small" ∧
    undecorated (printed true [resultLine "Stride: reads=2" none]) =
      "Stride: reads=2: no samples\n" ∧
    undecorated (printed true [skipLine "ΣΑΣ" "file too small"]) =
      "skipping σας: file too small\n" := by
  have hlabel : Harmless "Stride: reads=2" := by decide
  have hname : Harmless "ΣΑΣ" := by decide
  have hreason : Harmless "file too small" := by decide
  obtain ⟨-, -, hresult, hskip, -⟩ := colors_only_decorate { path := "plots" } "plots" 0
    "Stride: reads=2" none "ΣΑΣ" "file too small" emptyReport.comparison emptyReport
  refine ⟨hlabel, hname, hreason, ?_, ?_⟩
  · rw [hresult hlabel]
    decide +kernel
  · rw [hskip hname hreason]
    decide +kernel

/-- The summary of a run without results: with colors it has one character less. -/
theorem not_forall_summary_alike :
    ¬∀ (r : RunReport) (colored plain : List Line), summaryLines true r = .ok colored →
      summaryLines false r = .ok plain → undecorated (printed true colored) = printed false plain := by
  intro h
  have hentries : summaryEntries emptyReport = .ok [] := rfl
  rcases summaryLines_alike emptyReport with ⟨abort, haborts⟩ | ⟨body, hlines, hcolored, hplain⟩
  · have habort := haborts true
    rw [summaryLines, hentries] at habort
    cases habort
  · have hsame := h emptyReport _ _ (hlines true) (hlines false)
    rw [hcolored, hplain] at hsame
    exact titled_ne _ hsame

end ScanLatency.Console
