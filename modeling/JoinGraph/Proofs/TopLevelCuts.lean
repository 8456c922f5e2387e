import JoinGraph.Proofs.KeywordScan
import Mathlib.Tactic.SplitIfs

/-!
# Where a text is cut

Splitting a text at a separator is one scan, and telling whether a place is on the top level is
another. They agree on every text, also where parentheses do not match or a quote is not closed:
the cuts are the separators on the top level.  The level of a place is that of the text before it
(`isTopLevel`), so the scan for cuts has to know it after each character; the lemmas on
`splitTopFrom` are about a scan that has come to any level.

## Main results

* `scanParts_eq` — a scan that keeps its own count of parentheses and quotes finds the same parts.
* `cutPositions_splitTopFrom` — where a scan cuts.
* `exists_parts_uncut` — no part could be cut further.
* `eq_of_cutPositions_eq` — the text and the cuts tell the parts.
* `splitTop_cuts` — a text is cut at the separators on the top level, and there only.
-/

namespace JoinGraph.Pattern

/-! ## Cuts -/

/-- How many characters stand in front of each cut between the parts of a text. -/
def cutPositions : List (List Char) → List Nat
  | [] => []
  | [_] => []
  | part :: next :: parts => part.length :: (cutPositions (next :: parts)).map (part.length + 1 + ·)

theorem cutPositions_cons (part : List Char) {parts : List (List Char)} (h : parts ≠ []) :
    cutPositions (part :: parts) = part.length :: (cutPositions parts).map
      (part.length + 1 + ·) := by
  cases parts with
  | nil => exact absurd rfl h
  | cons next parts => rfl

/-- A character in front moves all cuts by one. -/
theorem cutPositions_consToFirst (c : Char) {parts : List (List Char)} (h : parts ≠ []) :
    cutPositions (consToFirst c parts) = (cutPositions parts).map (· + 1) := by
  match parts, h with
  | [part], _ => rfl
  | part :: next :: parts, _ =>
      simp only [consToFirst, cutPositions, List.map_cons, List.map_map, List.length_cons]
      congr 1
      refine List.map_congr_left fun i _ => ?_
      simp only [Function.comp_apply]
      omega

/-- The text and the positions of the cuts tell the parts. -/
theorem eq_of_cutPositions_eq {separator : Char} {parts parts' : List (List Char)}
    (hne : parts ≠ [])
    (hne' : parts' ≠ []) (htext : joinParts separator parts = joinParts separator parts')
    (hcuts : cutPositions parts = cutPositions parts') : parts = parts' := by
  induction parts generalizing parts' with
  | nil => exact absurd rfl hne
  | cons part rest ih =>
      match rest, parts', hne' with
      | [], [part'], _ => exact congrArg (fun p => [p]) htext
      | [], _ :: _ :: _, _ => exact absurd hcuts (by simp [cutPositions])
      | _ :: _, [_], _ => exact absurd hcuts (by simp [cutPositions])
      | next :: rest, part' :: next' :: rest', _ =>
          obtain ⟨hlength, hlater⟩ := List.cons.inj hcuts
          obtain ⟨rfl, hback⟩ := List.append_inj htext hlength
          rw [ih (List.cons_ne_nil _ _) (List.cons_ne_nil _ _) (List.cons.inj hback).2
            ((List.map_inj_right fun _ _ => Nat.add_left_cancel).1 hlater)]

/-! ## Separators -/

/-- The positions of the separators on the top level of a text to which a scan comes with `n`. -/
def separatorsFrom (separator : Char) (n : Nesting) (s : List Char) : List Nat :=
  (List.range s.length).filter fun i => s[i]? == some separator && (n.after (s.take i)).isTop

theorem mem_separatorsFrom_iff {separator : Char} {n : Nesting} {s : List Char} {i : Nat} :
    i ∈ separatorsFrom separator n s ↔ s[i]? = some separator ∧
      (n.after (s.take i)).isTop = true := by
  simp only [separatorsFrom, List.mem_filter, List.mem_range, Bool.and_eq_true, beq_iff_eq]
  exact and_iff_right_of_imp fun h => (List.getElem?_eq_some_iff.1 h.1).1

theorem separatorsFrom_cons (separator : Char) (n : Nesting) (c : Char) (s : List Char) :
    separatorsFrom separator n (c :: s) = (if c = separator && n.isTop then [0] else []) ++
      (separatorsFrom separator (n.step c) s).map (· + 1) := by
  rw [separatorsFrom, List.length_cons, List.range_succ_eq_map, List.filter_cons, List.filter_map]
  have hfirst : ((c :: s)[0]? == some separator && (n.after ((c :: s).take 0)).isTop) =
      (c = separator && n.isTop) := rfl
  rw [hfirst]
  split <;> rfl

/-- No part has a separator on the top level: the first part goes on from the level of the scan,
and every other one starts on the top level. -/
theorem exists_parts_uncut (separator : Char) (n : Nesting) (s : List Char) : ∃ part parts,
    splitTopFrom separator n s = part :: parts ∧ separatorsFrom separator n part = [] ∧
      ∀ next ∈ parts, separatorsFrom separator .top next = [] := by
  induction s generalizing n with
  | nil => exact ⟨[], [], rfl, rfl, by simp⟩
  | cons c s ih =>
      rw [splitTopFrom]
      split
      · next hcut =>
          obtain ⟨-, hn⟩ : c = separator ∧ n.isTop = true := by simpa using hcut
          obtain rfl := Nesting.eq_top_of_isTop hn
          obtain ⟨part, parts, hparts, hpart, hnext⟩ := ih .top
          exact ⟨[], part :: parts, by rw [hparts], rfl, List.forall_mem_cons.2 ⟨hpart, hnext⟩⟩
      · next hcut =>
          obtain ⟨part, parts, hparts, hpart, hnext⟩ := ih (n.step c)
          refine ⟨c :: part, parts, by rw [hparts]; rfl, ?_, hnext⟩
          rw [separatorsFrom_cons, hpart, if_neg hcut]
          rfl

/-! ## Scans -/

/-- The parts of a text, found by a scan that counts the open parentheses, remembers the open
quote, and gathers the part it is in. -/
def scanParts (separator : Char) :
    (depth : Nat) → (quote : Option Char) → (part : List Char) → List Char → List (List Char)
  | _, _, part, [] => [part]
  | depth, some opening, part, c :: rest =>
    scanParts separator depth (if c = opening then none else some opening) (part ++ [c]) rest
  | depth, none, part, c :: rest =>
    if c = '\'' ∨ c = '"' ∨ c = '\x60' then scanParts separator depth (some c) (part ++ [c]) rest
    else if c = '(' then scanParts separator (depth + 1) none (part ++ [c]) rest
    else if c = ')' then scanParts separator (depth - 1) none (part ++ [c]) rest
    else if c = separator ∧ depth = 0 then part :: scanParts separator depth none [] rest
    else scanParts separator depth none (part ++ [c]) rest

section Scan

variable {separator : Char} (hquote : isQuote separator = false)
    (hparen : separator ≠ '(' ∧ separator ≠ ')')
include hquote hparen

/-- A separator leaves the scan on the top level. -/
theorem Nesting.step_separator {n : Nesting} (hn : n.isTop = true) : n.step separator = n := by
  rw [eq_top_of_isTop hn]
  simp [step, top, hquote, hparen]

/-- A scan cuts at the separators that it finds on the top level. -/
theorem cutPositions_splitTopFrom (n : Nesting) (s : List Char) :
    cutPositions (splitTopFrom separator n s) = separatorsFrom separator n s := by
  induction s generalizing n with
  | nil => rfl
  | cons c s ih =>
      rw [splitTopFrom, separatorsFrom_cons]
      split
      · next hcut =>
          obtain ⟨rfl, hn⟩ : c = separator ∧ n.isTop = true := by simpa using hcut
          rw [cutPositions_cons _ (splitTopFrom_ne_nil _ _ _), ih,
            Nesting.step_separator hquote hparen hn]
          simp [Nat.add_comm]
      · rw [cutPositions_consToFirst c (splitTopFrom_ne_nil _ _ _), ih, List.nil_append]

/-- A scan that keeps its own count of parentheses and quotes finds the same parts. -/
theorem scanParts_eq (depth : Nat) (quote : Option Char) (part s : List Char) :
    scanParts separator depth quote part s =
      part.foldr consToFirst (splitTopFrom separator ⟨depth, quote⟩ s) := by
  induction s generalizing depth quote part with
  | nil => cases quote <;> simp [scanParts, splitTopFrom, foldr_consToFirst]
  | cons c s ih =>
      -- A character that is kept joins the part, and the scan goes on with the next level.
      have hkeep : ∀ n : Nesting, Nesting.step ⟨depth, quote⟩ c = n →
          (c = separator && Nesting.isTop ⟨depth, quote⟩) = false →
          scanParts separator n.depth n.quote (part ++ [c]) s =
            part.foldr consToFirst (splitTopFrom separator ⟨depth, quote⟩ (c :: s)) := by
        rintro n rfl hcut
        rw [ih, List.foldr_append, splitTopFrom, hcut]
        rfl
      cases quote with
      | some opening =>
          rw [scanParts]
          refine hkeep ⟨depth, if c = opening then none else some opening⟩ ?_
            (by simp [Nesting.isTop])
          simp only [Nesting.step]
          split <;> rfl
      | none =>
          have hisQuote : isQuote c = true ↔ c = '\'' ∨ c = '"' ∨ c = '\x60' := by
            simp [isQuote, or_assoc]
          rw [scanParts]
          split_ifs with hopens hopen hclose hcut
          · have hc := hisQuote.2 hopens
            have hne : c ≠ separator := by rintro rfl; simp [hquote] at hc
            exact hkeep ⟨depth, some c⟩ (by simp [Nesting.step, hc]) (by simp [hne])
          · subst hopen
            exact hkeep ⟨depth + 1, none⟩ rfl (by simp [hparen.1.symm])
          · subst hclose
            exact hkeep ⟨depth - 1, none⟩ rfl (by simp [hparen.2.symm])
          · obtain ⟨rfl, rfl⟩ := hcut
            rw [ih, splitTopFrom, if_pos (by simp [Nesting.isTop]), foldr_consToFirst,
              List.append_nil]
            rfl
          · have hc : isQuote c = false := Bool.eq_false_iff.2 fun h => hopens (hisQuote.1 h)
            exact hkeep ⟨depth, none⟩ (by simp [Nesting.step, hc, hopen, hclose])
              (by simpa [Nesting.isTop] using hcut)

end Scan

/-! ## Agreement -/

/-- A text is cut at the separators on the top level, and there only: the positions of the cuts
are those at which the text has the separator and the text before is on the top level.  The parts
give back the text, and no other parts do with these cuts.  No part has a separator that is on its
top level.  A place is on the top level exactly if every text behind it has the levels that it has
on its own. -/
theorem splitTop_cuts {separator : Char} (hquote : isQuote separator = false)
    (hparen : separator ≠ '(' ∧ separator ≠ ')') (s : List Char) :
    let cuts := (List.range s.length).filter fun i =>
      s[i]? == some separator && isTopLevel (s.take i)
    scanParts separator 0 none [] s = splitTop separator s ∧
      cutPositions (splitTop separator s) = cuts ∧
      joinParts separator (splitTop separator s) = s ∧
      (∀ parts, parts ≠ [] → joinParts separator parts = s → cutPositions parts = cuts →
        parts = splitTop separator s) ∧
      (∀ part ∈ splitTop separator s, ∀ i, part[i]? = some separator →
        isTopLevel (part.take i) = false) ∧
      ∀ front, isTopLevel front = true ↔ ∀ back, isTopLevel (front ++ back) = isTopLevel back := by
  intro cuts
  have hcuts : cutPositions (splitTop separator s) = cuts :=
    cutPositions_splitTopFrom hquote hparen .top s
  have htext := joinParts_splitTop separator s
  refine ⟨scanParts_eq hquote hparen 0 none [] s, hcuts, htext, fun parts hne hjoin hsame => ?_,
    fun part hpart i hi => ?_, fun front => ⟨isTopLevel_append, fun h => ?_⟩⟩
  · exact eq_of_cutPositions_eq hne (splitTopFrom_ne_nil _ _ _) (hjoin.trans htext.symm)
      (hsame.trans hcuts.symm)
  · obtain ⟨first, parts, hparts, hfirst, hnext⟩ := exists_parts_uncut separator .top s
    have hnone : separatorsFrom separator .top part = [] := by
      rw [splitTop, hparts] at hpart
      rcases List.mem_cons.1 hpart with rfl | hpart
      · exact hfirst
      · exact hnext part hpart
    refine Bool.eq_false_iff.2 fun htop => ?_
    simpa [hnone] using mem_separatorsFrom_iff.2 ⟨hi, htop⟩
  · rw [← List.append_nil front, h []]
    rfl

/-- A text with a closing parenthesis too many, letters outside of ASCII, a comma in each kind of
nesting, and a quote that is not closed. -/
def untidyText : List Char := "é), f(b, (c)), 'x,(', ß, \"d, e".toList

/-- The commas in parentheses and quotes are no cuts. -/
theorem splitTop_cuts_untidy : isQuote ',' = false ∧ (',' ≠ '(' ∧ ',' ≠ ')') ∧
    (List.range untidyText.length).filter (fun i =>
      untidyText[i]? == some ',' && isTopLevel (untidyText.take i)) = [2, 13, 20, 23] ∧
    splitTop ',' untidyText =
      ["é)".toList, " f(b, (c))".toList, " 'x,('".toList, " ß".toList, " \"d, e".toList] := by
  have hcuts : (List.range untidyText.length).filter (fun i =>
      untidyText[i]? == some ',' && isTopLevel (untidyText.take i)) = [2, 13, 20, 23] := by decide
  obtain ⟨-, -, -, hunique, -⟩ :=
    splitTop_cuts (by decide : isQuote ',' = false) (by decide) untidyText
  exact ⟨by decide, by decide, hcuts,
    (hunique _ (List.cons_ne_nil _ _) (by decide) (by rw [hcuts]; decide)).symm⟩

end JoinGraph.Pattern
