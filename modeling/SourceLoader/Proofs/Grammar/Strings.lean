import SourceLoader.Proofs.Parsing
import SourceLoader.Syntax.Grammar.Strings

/-!
# String literals yield expressions

The expression of a replacement field is read as a source of its own, with memory of its own, so
the soundness of the rules carries over. It stands on the lines of its literal: the line ends before
a point of the literal and those behind it stay the same in number (`Cursor.breaks`).
-/

namespace SourceLoader.Grammar

open Parser
open Tree (On AllOn SomeOn)

variable {n : Nat} {g : Rules}

/-! ## Line ends of a literal -/

/-- Line ends before and behind the point. -/
def Cursor.breaks (c : Cursor) : Nat := c.before.count '\n' + c.rest.count '\n'

@[simp] theorem Cursor.breaks_skip (k : Nat) (c : Cursor) : (c.skip k).breaks = c.breaks := by
  fun_induction Cursor.skip k c with
  | case1 c => rfl
  | case2 k before d rest ih =>
      rw [ih]
      simp only [breaks, List.count_cons]
      omega
  | case3 k before => rfl

theorem Cursor.lines_eq (c : Cursor) : c.lines = c.before.count '\n' := by
  rw [Cursor.lines, List.count_eq_length_filter]
  congr 1

/-- What is cut out and what follows make up the text. -/
theorem cutExpression_append {quote quote' : OpenQuote}
    {parens parens' done expression cs : List Char}
    {behind : List Char}
    (h : cutExpression quote parens done cs = .ok (quote', parens', expression, behind)) :
    expression.reverse ++ behind = done.reverse ++ cs := by
  fun_induction cutExpression quote parens done cs
  all_goals first
    | cases h; simp
    | rename_i ih; simpa using ih h
    | cases h

/-- A field ends on a line of its literal. -/
theorem lines_field_le {c : Cursor} {body : List Char} {quote : OpenQuote}
    {parens expression behind : List Char} (hrest : c.rest = '\x7b' :: body)
    (hcut : cutExpression none [] [] body = .ok (quote, parens, expression, behind)) :
    c.lines + expression.reverse.count '\n' ≤ c.breaks := by
  have hbody := congrArg (List.count '\n') (cutExpression_append hcut)
  rw [List.count_append] at hbody
  have hcount : c.rest.count '\n' = body.count '\n' := by simp [hrest]
  rw [Cursor.breaks, Cursor.lines_eq, hcount]
  simp only [List.reverse_nil, List.nil_append] at hbody
  omega

/-- The lead and the body of a literal are parts of it. -/
theorem breaks_ofToken_le (text : String) :
    Cursor.breaks ⟨(Literal.ofToken text).lead.reverse, (Literal.ofToken text).body⟩
      ≤ text.toList.count '\n' := by
  simp only [Cursor.breaks, List.count_reverse]
  unfold Literal.ofToken
  extract_lets cs letters quoted has size
  have hcut := congrArg (List.count '\n') (List.take_append_drop (letters.length + size) cs)
  have hbody := ((List.take_sublist (quoted.length - 2 * size) (quoted.drop size)).count_le '\n')
  rw [List.count_append, ← List.drop_drop] at hcut
  exact (Nat.add_le_add_left hbody _).trans_eq hcut

/-- The tokens of a literal stand on the first `n` lines. -/
structure StringPlace.Sound (n : Nat) (place : StringPlace) : Prop where
  first : place.first.Within n
  token : place.token.Within n

/-! ## Pieces -/

theorem spanOf_isOn {first : Token} (h : first.Within n) (last : Token) :
    (spanOf first last).isOn n = true := by
  simp [spanOf, Span.isOn, h.pos, h.le]

/-- The finished pieces are expressions. -/
def Pieces.Sound (n : Nat) (p : Pieces) : Prop := AllOn n .expression p.done

theorem Pieces.none_sound : Pieces.Sound n {} := AllOn.nil

section

variable {first : Token} {p : Pieces}

theorem textPiece_on (hfirst : first.Within n) (last : Token) (t : Text) :
    On n .expression (textPiece first last t) :=
  .node rfl rfl (spanOf_isOn hfirst last) rfl trivial

theorem Pieces.Sound.flush (h : p.Sound n) (hfirst : first.Within n) (last : Token) :
    (p.flush first last).Sound n := by
  unfold Pieces.flush
  split
  · exact h
  · exact .cons (textPiece_on hfirst last p.pending) h

theorem Pieces.Sound.finish (h : p.Sound n) (hfirst : first.Within n) (last : Token) :
    On n .expression (p.finish first last) := by
  unfold Pieces.finish
  split
  · exact .node rfl rfl (spanOf_isOn hfirst last) rfl
      ⟨fun t ht => h.flush hfirst last t (List.mem_reverse.mp ht), trivial⟩
  · exact textPiece_on hfirst last p.pending

/-- A replacement field behind the pieces so far. -/
theorem Pieces.Sound.addField (h : p.Sound n) (hfirst : first.Within n) (last : Token)
    (converted : Option Char) {value : Tree} {format : List Tree} (hvalue : On n .expression value)
    (hformat : (Slot.optional .expression).FilledOn n format) :
    Pieces.Sound n { p.flush first last with
      done := .node (.formattedValue converted) (some (spanOf first last)) [[value], format] ::
        (p.flush first last).done } :=
  .cons (.node rfl rfl (spanOf_isOn hfirst last) rfl ⟨hvalue, hformat, trivial⟩)
    (h.flush hfirst last)

end

/-! ## Replacement fields -/

theorem resolve_keeps (place : StringPlace) (cs : List Char) : (resolve place cs).Keeps n := by
  refine Gives.ite (fun _ => .ret trivial) fun _ => ?_
  split
  · exact .faultAtLast _
  · split
    · exact .skip (.warn _) fun _ => .ret trivial
    · exact .ret trivial

/-- The field is read on the lines of the literal on which it stands. -/
theorem fieldExpression_gives (hg : g.Sound n) {place : StringPlace} (hplace : place.Sound n)
    {opening : Cursor} {text : List Char}
    (hlines : place.token.line + opening.lines + text.count '\n' ≤ n) (next : Char) :
    (fieldExpression g place opening text next).Gives n (On n .expression) := by
  refine Gives.ite (fun _ => .faultAtLast _) fun _ s hs => ?_
  dsimp only
  split
  · next hread =>
      have hpos := hplace.token.pos
      have hinner := (hg.one .fieldInput).read (.first rfl
        (Lexer.begun_of_lines rfl rfl (by simp [List.getLast?_cons]) ?_) rfl rfl rfl) hread
      · exact ⟨⟨hs.trusting, hs.lexer, hs.tokens, hs.ones, hs.manys⟩, hinner⟩
      · simp only [List.cons_append, List.count_cons, List.count_append, List.count_nil]
        simp
        omega
  · trivial

theorem conversion_gives (c : Cursor) :
    (conversion c).Gives n fun r => r.2.breaks = c.breaks := by
  unfold conversion
  split
  · exact Gives.ite (fun _ => .ret (Cursor.breaks_skip _ _)) fun _ => .faultAtLast _
  · exact Gives.faultAtLast _
  · exact Gives.ret rfl

/-- **The pieces of a formatted literal are expressions.** The fuel goes down in each call. -/
theorem formattedPieces_gives (hg : g.Sound n) {place : StringPlace} (hplace : place.Sound n)
    (fuel levels : Nat) {c : Cursor} (hc : place.token.line + c.breaks ≤ n) {p : Pieces}
    (hp : p.Sound n) :
    (formattedPieces g place levels fuel c p).Gives n fun r =>
      r.1.Sound n ∧ r.2.breaks = c.breaks := by
  induction fuel generalizing levels c p with
  | zero => rw [formattedPieces]; exact .ret ⟨hp, rfl⟩
  | succ fuel ih =>
      have hmore (levels k : Nat) {c' : Cursor} {p' : Pieces} (hc' : c'.breaks = c.breaks)
          (hp' : p'.Sound n) :
          (formattedPieces g place levels fuel (c'.skip k) p').Gives n fun r =>
            r.1.Sound n ∧ r.2.breaks = c.breaks := by
        have hsame : (c'.skip k).breaks = c.breaks := (Cursor.breaks_skip _ _).trans hc'
        refine (ih levels (c := c'.skip k) (by rw [hsame]; exact hc) hp').mono fun r hr => ?_
        exact ⟨hr.1, hr.2.trans hsame⟩
      rw [formattedPieces]
      split
      · exact .faultAtLast _
      refine Gives.bind (.forIn (R := fun _ => True) trivial fun _ _ _ => .skip (.warn _)
        fun _ => .ret trivial) fun _ _ => ?_
      refine .join (P := fun _ => True) (fun text _ => ?_) fun k hk =>
        .ite (fun _ => hk _ trivial) fun _ => .skip (resolve_keeps _ _) fun text => hk text trivial
      refine .ite (fun _ => hmore _ _ rfl hp) fun _ => ?_
      split
      · next body hrest =>
        split
        · exact .faultAtLast _
        split
        · exact .faultAtLast _
        next hcut =>
        refine .ite (fun _ => .faultAtLast _) fun _ => ?_
        split
        · exact .faultAtLast _
        split
        · exact .faultAtLast _
        refine (fieldExpression_gives hg hplace ?_ _).bind fun value hvalue => ?_
        · have hfield := lines_field_le hrest hcut
          rw [Cursor.breaks_skip] at hfield
          omega
        refine .ite (fun _ => .faultAtLast _) fun _ => (conversion_gives _).bind fun r hr => ?_
        simp only [Cursor.breaks_skip] at hr
        dsimp only
        split
        · exact Gives.bind (P := fun _ => False) (.faultAtLast _) fun _ h => h.elim
        · have hnone : Pieces.Sound n { isFormatted := true } := .nil
          refine (hmore _ 1 hr hnone).bind fun inner hinner => .ite (fun _ => ?_) fun _ =>
            Gives.bind (P := fun _ => False) (.faultAtLast _) fun _ h => h.elim
          refine Gives.bind (.ret (P := fun r : List Tree × Cursor =>
            (Slot.optional .expression).FilledOn n r.1 ∧ r.2.breaks = c.breaks)
            ⟨hinner.1.finish hplace.token _, hinner.2⟩) fun r hr => ?_
          split
          · exact hmore _ _ hr.2 (Pieces.Sound.addField (by exact hp) hplace.first _ _ hvalue hr.1)
          · exact .faultAtLast _
        · refine Gives.bind (.ret (P := fun r : List Tree × Cursor =>
            (Slot.optional .expression).FilledOn n r.1 ∧ r.2.breaks = c.breaks)
            ⟨trivial, hr⟩) fun r hr => ?_
          split
          · exact hmore _ _ hr.2 (Pieces.Sound.addField (by exact hp) hplace.first _ _ hvalue hr.1)
          · exact .faultAtLast _
      · exact .ret ⟨hp, Cursor.breaks_skip _ _⟩

/-! ## Literals in a row -/

theorem addLiteral_gives (hg : g.Sound n) {first : Token} (hfirst : first.Within n) (last : Token)
    {p : Pieces} (hp : p.Sound n) {t : Token} (ht : t.Within n) (hstring : t.kind = .string) :
    (addLiteral g first last p t).Gives n (Pieces.Sound n) := by
  refine .ite (fun _ => ?_) fun _ => .skip (resolve_keeps _ _) fun _ => .ret hp
  have hbreaks := breaks_ofToken_le t.text
  have htext := ht.text hstring
  exact (formattedPieces_gives hg (by exact ⟨hfirst, ht⟩) _ _ (by dsimp only; omega)
    (by exact hp)).bind fun r hr => .ite (fun _ => .ret hr.1) fun _ => .faultAtLast _

theorem addBytes_keeps (value : List UInt8) (t : Token) : (addBytes value t).Keeps n := by
  refine Gives.ite (fun _ => .faultAtLast _) fun _ => .ite (fun _ => .ret trivial) fun _ => ?_
  split
  · exact .faultAtLast _
  · split
    · exact .skip (.warn _) fun _ => .ret trivial
    · exact .ret trivial

theorem addLiterals_gives (hg : g.Sound n) {first : Token} (hfirst : first.Within n) (last : Token)
    {ts : List Token} (hts : ∀ t ∈ ts, t.Within n ∧ t.kind = .string) {p : Pieces}
    (hp : p.Sound n) : (addLiterals g first last ts p).Gives n (Pieces.Sound n) := by
  induction ts generalizing p with
  | nil => exact .ret hp
  | cons t ts ih =>
      obtain ⟨ht, hts⟩ := List.forall_mem_cons.mp hts
      refine (addLiteral_gives hg hfirst last hp ht.1 ht.2).bind fun q hq => ?_
      split
      · exact .ite (fun _ => .skip (addBytes_keeps _ _) fun _ => .faultAtLast _) fun _ => ih hts hq
      · exact .ret hq

theorem addAllBytes_keeps (hg : g.Sound n) {first : Token} (hfirst : first.Within n) (last : Token)
    {ts : List Token} (hts : ∀ t ∈ ts, t.Within n ∧ t.kind = .string) (value : List UInt8) :
    (addAllBytes g first last ts value).Keeps n := by
  induction ts generalizing value with
  | nil => exact Gives.ret trivial
  | cons t ts ih =>
      have hbehind := (List.forall_mem_cons.mp hts).2
      refine Gives.skip (addBytes_keeps _ _) fun value => ?_
      split
      · next u us =>
        refine .ite (fun _ => ih hbehind value) fun _ => .ite (fun _ => .faultAtLast _) fun _ => ?_
        have hu := hbehind u List.mem_cons_self
        exact .skip (addLiteral_gives hg hfirst last Pieces.none_sound hu.1 hu.2).keeps
          fun _ => .faultAtLast _
      · exact .ret trivial

theorem strings_gives (hg : g.Sound n) : (strings g).Gives n (On n .expression) := by
  refine Gives.bind (.many1 (.kind _)) fun tokens htokens => ?_
  split
  · have hfirst := (htokens.2 _ List.mem_cons_self).1
    refine .ite (fun _ => ?_) fun _ => ?_
    · exact .skip (addAllBytes_keeps hg hfirst _ htokens.2 _) fun _ =>
        .ret (.node rfl rfl (spanOf_isOn hfirst _) rfl trivial)
    · exact (addLiterals_gives hg hfirst _ htokens.2 Pieces.none_sound).bind fun p hp =>
        .ret (hp.finish hfirst _)
  · exact .fail

end SourceLoader.Grammar
