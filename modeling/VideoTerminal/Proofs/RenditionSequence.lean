import Mathlib.Tactic.IntervalCases
import VideoTerminal.Proofs.ControlSequences
import VideoTerminal.Proofs.Exporting
import VideoTerminal.Proofs.PlainText
import VideoTerminal.Proofs.RenditionLists
import VideoTerminal.Proofs.Resetting

/-!
The sequence that is written for a rendition, read by a terminal again: it
selects that rendition and does nothing else, whatever was selected before.
-/

namespace VideoTerminal

namespace Rendition

/-! ## Numbers between semicolons -/

theorem joinCodes_eq_intercalate (codes : List Nat) :
    joinCodes codes = [';'].intercalate (codes.map fun code => (toString code).toList) := by
  induction codes with
  | nil => rfl
  | cons code rest inductionHypothesis =>
      cases rest with
      | nil => rw [joinCodes, List.map_singleton, List.intercalate_singleton]
      | cons next others =>
          simp [joinCodes, inductionHypothesis, List.intercalate_cons_cons]

theorem fields_joinCodes {codes : List Nat} (some : codes ≠ []) :
    Text.fields ';' (joinCodes codes) = codes.map fun code => (toString code).toList := by
  rw [joinCodes_eq_intercalate, Text.fields_intercalate]
  · intro part member
    obtain ⟨code, _, rfl⟩ := List.mem_map.mp member
    exact Text.semicolon_not_mem_toString code
  · exact mt List.map_eq_nil_iff.mp some

theorem isParameter_of_mem_joinCodes
    {codes : List Nat} {char : Char}
    (member : char ∈ joinCodes codes) :
    Action.isParameter char = true := by
  rw [joinCodes_eq_intercalate] at member
  apply Text.forall_mem_intercalate _ _ char member
  · exact List.forall_mem_singleton.mpr (by decide)
  · intro part known digit inside
    obtain ⟨code, _, rfl⟩ := List.mem_map.mp known
    rw [Action.isParameter, Text.isDigit_of_mem_toString inside, Bool.true_or]

theorem length_joinCodes_le
    {codes : List Nat}
    (small : ∀ code ∈ codes, code < 1000) :
    (joinCodes codes).length ≤ 4 * codes.length := by
  have digits (code : Nat) (few : code < 1000) : (toString code).toList.length ≤ 3 := by
    rw [Text.toList_toString, Nat.length_toDigits_le_iff (by decide) (by decide)]
    exact few
  induction codes with
  | nil => exact Nat.zero_le _
  | cons code rest inductionHypothesis =>
      have here := digits code (small code List.mem_cons_self)
      have later := inductionHypothesis fun other member =>
        small other (List.mem_cons_of_mem code member)
      cases rest with
      | nil =>
          rw [joinCodes, List.length_singleton]
          omega
      | cons next others =>
          rw [joinCodes, List.length_append, List.length_cons]
          · simp only [List.length_cons] at later ⊢
            omega
          · exact List.cons_ne_nil next others

/-! ## The numbers of a rendition -/

theorem codes_bounds (rendition : Rendition) :
    rendition.codes.length ≤ 16 ∧ ∀ code ∈ rendition.codes, code < 256 := by
  have colour (base bright extended : Nat) (colour : Colour)
      (bases : base < 200 ∧ bright < 200 ∧ extended < 256) :
      (colourCodes base bright extended colour).length ≤ 5 ∧
        ∀ code ∈ colourCodes base bright extended colour, code < 256 := by
    cases colour with
    | default => exact ⟨Nat.zero_le _, nofun⟩
    | indexed index =>
        have byte := index.toNat_lt
        rw [colourCodes]
        split
        · simp
          omega
        · split
          · simp
            omega
          · simp
            omega
    | direct rgb =>
        have red := rgb.red.toNat_lt
        have green := rgb.green.toNat_lt
        have blue := rgb.blue.toNat_lt
        simp [colourCodes]
        omega
  have flag (set : Bool) (code : Nat) (small : code < 256) :
      (if set then [code] else []).length ≤ 1 ∧
        ∀ other ∈ if set then [code] else [], other < 256 := by
    cases set <;> simp [small]
  have bold := flag rendition.bold 1 (by decide)
  have italic := flag rendition.italic 3 (by decide)
  have underline := flag rendition.underline 4 (by decide)
  have blink := flag rendition.blink 5 (by decide)
  have reverse := flag rendition.reverse 7 (by decide)
  have front := colour 30 90 38 rendition.foreground (by decide)
  have back := colour 40 100 48 rendition.background (by decide)
  constructor
  · simp only [codes, List.length_append, List.length_singleton]
    omega
  · intro code member
    simp only [codes, List.mem_append, List.mem_singleton] at member
    rcases member with ((((((rfl | here) | here) | here) | here) | here) | here) | here
    · decide
    · exact bold.2 code here
    · exact italic.2 code here
    · exact underline.2 code here
    · exact blink.2 code here
    · exact reverse.2 code here
    · exact front.2 code here
    · exact back.2 code here

theorem codes_ne_nil (rendition : Rendition) : rendition.codes ≠ [] := by
  simp [codes]

theorem clampByte_toNat (byte : UInt8) : clampByte byte.toNat = byte := by
  have small := byte.toNat_lt
  rw [clampByte, Nat.min_eq_left (by omega), UInt8.ofNat_toNat]

/-- The numbers of a colour give the place that they are for this colour. -/
theorem scan_colourCodes
    {base bright extended : Nat} {ground : Ground} {rendition : Rendition}
    (dark : ∀ i < 8, extended? (base + i) = none ∧
      applyCode false rendition (base + i) = rendition.paint ground (.indexed (.ofNat i)))
    (light : ∀ i < 8, extended? (bright + i) = none ∧
      applyCode false rendition (bright + i) =
        rendition.paint ground (.indexed (.ofNat (i + 8))))
    (operands : extended? extended = some ground)
    (unset : rendition.paint ground .default = rendition)
    (colour : Colour) (rest : List Nat) :
    scan false (colourCodes base bright extended colour ++ rest) rendition =
      scan false rest (rendition.paint ground colour) := by
  cases colour with
  | default => rw [unset, colourCodes, List.nil_append]
  | indexed index =>
      rw [colourCodes]
      split
      · next few =>
          rw [List.singleton_append, scan_of_plain (dark _ few).1, (dark _ few).2,
            UInt8.ofNat_toNat]
      · split
        · next few =>
            have eight : index.toNat - 8 + 8 = index.toNat := by omega
            rw [List.singleton_append, scan_of_plain (light _ (by omega)).1,
              (light _ (by omega)).2, eight, UInt8.ofNat_toNat]
        · simp only [List.cons_append, List.nil_append]
          rw [scan_of_index operands, clampByte_toNat]
  | direct rgb =>
      rw [colourCodes]
      simp only [List.cons_append, List.nil_append]
      rw [scan_of_direct operands, clampByte_toNat, clampByte_toNat, clampByte_toNat]

theorem scan_foreground
    {rendition : Rendition}
    (unset : rendition.foreground = .default)
    (colour : Colour) (rest : List Nat) :
    scan false (colourCodes 30 90 38 colour ++ rest) rendition =
      scan false rest (rendition.paint .foreground colour) := by
  apply scan_colourCodes
  · intro i few
    interval_cases i <;> exact ⟨rfl, rfl⟩
  · intro i few
    interval_cases i <;> exact ⟨rfl, rfl⟩
  · rfl
  · rw [paint, ← unset]

theorem scan_background
    {rendition : Rendition}
    (unset : rendition.background = .default)
    (colour : Colour) (rest : List Nat) :
    scan false (colourCodes 40 100 48 colour ++ rest) rendition =
      scan false rest (rendition.paint .background colour) := by
  apply scan_colourCodes
  · intro i few
    interval_cases i <;> exact ⟨rfl, rfl⟩
  · intro i few
    interval_cases i <;> exact ⟨rfl, rfl⟩
  · rfl
  · rw [paint, ← unset]

theorem scan_flag
    (set : Bool) {code : Nat} (plain : extended? code = none)
    (rest : List Nat) (rendition : Rendition) :
    scan false ((if set then [code] else []) ++ rest) rendition =
      scan false rest (if set then applyCode false rendition code else rendition) := by
  cases set with
  | false => rfl
  | true => exact scan_of_plain plain rest rendition

/-- The numbers of a rendition select it, whatever was selected before. -/
theorem select_codes (rendition pen : Rendition) :
    pen.select false rendition.codes = rendition := by
  obtain ⟨foreground, background, bold, italic, underline, reverse, blink⟩ := rendition
  have flags (rest : List Nat) :
      scan false
          ([0] ++ (if bold then [1] else []) ++ (if italic then [3] else []) ++
            (if underline then [4] else []) ++ (if blink then [5] else []) ++
            (if reverse then [7] else []) ++ rest) pen =
        scan false rest { bold, italic, underline, reverse, blink } := by
    simp only [List.append_assoc, List.cons_append, List.nil_append]
    rw [scan_of_plain rfl, scan_flag bold rfl, scan_flag italic rfl, scan_flag underline rfl,
      scan_flag blink rfl, scan_flag reverse rfl]
    cases bold <;> cases italic <;> cases underline <;> cases blink <;> cases reverse <;> rfl
  have some := codes_ne_nil ⟨foreground, background, bold, italic, underline, reverse, blink⟩
  rw [select]
  · rw [codes, List.append_assoc, flags, scan_foreground rfl,
      ← List.append_nil (colourCodes 40 100 48 background), scan_background rfl, scan]
    rfl
  · exact some

end Rendition

/-! ## The sequence read -/

theorem Parameters.numbers_joinCodes
    {codes : List Nat}
    (some : codes ≠ [])
    (small : ∀ code ∈ codes, code < 256) :
    (Parameters.mk (Rendition.joinCodes codes).toArray).numbers = codes := by
  have filled : (Rendition.joinCodes codes).toArray.isEmpty = false := by
    cases codes with
    | nil => exact absurd rfl some
    | cons code rest =>
        simp [Rendition.joinCodes_cons]
  rw [numbers, filled, if_neg Bool.false_ne_true, fields, toList, List.toList_toArray,
    Rendition.fields_joinCodes some, List.map_map]
  conv_rhs => rw [← List.map_id codes]
  apply List.map_congr_left
  intro code member
  have few := small code member
  have limit : code ≤ Text.wordLimit ∧ code ≤ listLimit := by
    have large : 255 ≤ Text.wordLimit ∧ 255 ≤ listLimit := by decide
    omega
  rw [Function.comp_apply, Text.lenientNumber_toString limit.1, Nat.min_eq_left limit.2]
  rfl

namespace Console

variable {console : Console}

/-- The sequence of a rendition selects it, once what waits has been written,
and does nothing else. -/
theorem feed_sequence_of_ground
    (inGround : console.interpreter.phase = .ground)
    (blinks : console.terminal.blinkIsBold = false)
    (rendition : Rendition) :
    console.feed rendition.sequence =
      { console.flush with
        terminal := { console.flush.terminal with pen := rendition }
        interpreter := {} } := by
  obtain ⟨few, small⟩ := rendition.codes_bounds
  have numbers := Parameters.numbers_joinCodes rendition.codes_ne_nil small
  have fits : (Rendition.joinCodes rendition.codes).length ≤ Parameters.limit := by
    have length := Rendition.length_joinCodes_le fun code member =>
      Nat.lt_trans (small code member) (by decide)
    have limit : Parameters.limit = 4096 := rfl
    omega
  have unblinking : console.flush.terminal.blinkIsBold = false :=
    (Terminal.KeepsSettings.printAll console.terminal _).blinkIsBold_eq.trans blinks
  have selected :
      console.flush.terminal.pen.select console.flush.terminal.blinkIsBold rendition.codes =
        rendition := by
    rw [unblinking]
    exact Rendition.select_codes rendition console.flush.terminal.pen
  rw [Rendition.sequence, ← controlSequence,
    feed_controlSequence inGround (fun _ => Rendition.isParameter_of_mem_joinCodes) fits rfl]
  have silent : console.flush.terminal.answer (.selectRendition rendition.codes) = [] := rfl
  rw [perform, numbers, silent, Array.append_empty, Terminal.perform, selected]

theorem feed_sequence
    (quiet : console.Quiet)
    (blinks : console.terminal.blinkIsBold = false)
    (rendition : Rendition) :
    console.feed rendition.sequence =
      { console with terminal := { console.terminal with pen := rendition } } := by
  obtain ⟨terminal, interpreter, replies⟩ := console
  obtain rfl : interpreter = {} := quiet
  rw [feed_sequence_of_ground rfl blinks, flush_eq_self rfl]

/-- The sequence of a rendition selects exactly that rendition, whatever the
pen was. It leaves no sequence unfinished and is not answered, and of the
terminal it changes nothing but the pen, apart from what was gathered before it
and had still to be written. -/
theorem feed_sequence_selects
    (inGround : console.interpreter.phase = .ground)
    (blinks : console.terminal.blinkIsBold = false)
    (rendition : Rendition) :
    let fed := console.feed rendition.sequence
    fed.terminal = { console.flush.terminal with pen := rendition } ∧
      fed.interpreter = {} ∧
      fed.replies = console.replies ∧
      (console.interpreter.pending = #[] →
        fed.terminal = { console.terminal with pen := rendition }) := by
  intro fed
  have read : fed = _ := feed_sequence_of_ground inGround blinks rendition
  refine ⟨by rw [read], by rw [read], by rw [read, flush], fun written => ?_⟩
  rw [read, flush_eq_self written]

/-- Two colours of the longer forms and two attributes, selected behind the
last column in place of others. -/
theorem feed_sequence_selects_behind_last_column :
    let rendition : Rendition :=
      { foreground := .indexed 200, background := .direct ⟨1, 20, 255⟩
        underline := true, blink := true }
    let terminal := { Terminal.blank 2 3 4 with blinkIsBold := false }
    let console := ({ terminal } : Console).feed "\x1b[1;7;31mabc".toList
    let fed := console.feed rendition.sequence
    console.interpreter.phase = .ground ∧
      console.terminal.blinkIsBold = false ∧
      console.terminal.cursor = ⟨3, 0⟩ ∧
      fed.terminal = { console.terminal with pen := rendition } ∧
      fed.interpreter = {} ∧
      fed.replies = console.replies := by
  intro rendition terminal console fed
  have inGround : console.interpreter.phase = .ground := by decide +kernel
  have blinks : console.terminal.blinkIsBold = false := by decide +kernel
  have written : console.interpreter.pending = #[] := rfl
  obtain ⟨-, finished, silent, same⟩ := feed_sequence_selects inGround blinks rendition
  exact ⟨inGround, blinks, by decide +kernel, same written, finished, silent⟩

end Console

end VideoTerminal
