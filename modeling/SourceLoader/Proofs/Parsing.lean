import SourceLoader.Proofs.NormalNames
import SourceLoader.Proofs.Shape
import SourceLoader.Proofs.TokenLines
import SourceLoader.Syntax.Reading

/-!
# What parsers give

`p.Gives n post` says that a parser that starts with sound memory yields values with a property, and
leaves sound memory behind. Memory is sound if each rule remembers only what it may yield, and the
lexer and the tokens stay on the first `n` lines. A statement about a rule is then one about its
right side, with one lemma for each way to put parsers together.

Only the first reading of a source yields a tree, and on it no mistakes are looked for. So sound
memory includes that, and alternatives which only describe mistakes give whatever is asked of them.
-/

namespace SourceLoader

open Tree (On AllOn SomeOn)

/-! ## What rules yield -/

/-- The arguments of a call are read as a call of nothing. -/
def Tree.IsCallOfNothing (n : Nat) (t : Tree) : Prop :=
  ∃ k s arguments keywords, t = .node k s [[], arguments, keywords] ∧
    AllOn n .expression arguments ∧ AllOn n .keyword keywords

/-- What a rule yields from the first `n` lines. -/
def OneRule.Yields (n : Nat) : OneRule → Tree → Prop
  | .simpleStatement | .elifPart => On n .statement
  | .arguments | .callArguments => Tree.IsCallOfNothing n
  | .pattern | .closedPattern | .starPattern | .casePatterns => On n .pattern
  | .parameters | .lambdaParameters => On n .arguments
  | _ => On n .expression

/-- What the trees of a rule stand for. -/
def ManyRule.category : ManyRule → Category
  | .statements | .block | .simpleStatements => .statement
  | .forClauses => .clause
  | .patternElements | .openPatternElements => .pattern
  | .starNamedExpressions | .delTargets => .expression

/-- Which rule a place belongs to. -/
def ruleOf (place : Nat) : Nat := place / 2 % 128

/-- No mistakes are looked for, the tokens stand on the first `n` lines, and each rule remembers
only what it may yield. -/
structure ParseState.Sound (n : Nat) (s : ParseState) : Prop where
  trusting : s.diagnosing = false
  lexer : s.lexer.Begun n
  tokens : ∀ t ∈ s.tokens, t.Within n
  ones : ∀ place t mark, s.ones[place]? = some (some (t, mark)) →
    ∀ rule : OneRule, ruleOf place = rule.ctorIdx → rule.Yields n t
  manys : ∀ place ts mark, s.manys[place]? = some (some (ts, mark)) →
    ∀ rule : ManyRule, ruleOf place = rule.ctorIdx → SomeOn n rule.category ts

namespace ParseState

variable {n : Nat} {s : ParseState}

theorem Sound.at (h : s.Sound n) (mark : Nat) : { s with mark }.Sound n :=
  ⟨h.trusting, h.lexer, h.tokens, h.ones, h.manys⟩

/-- Nothing is read yet. -/
theorem Sound.first (htrusting : s.diagnosing = false) (hlexer : s.lexer.Begun n)
    (htokens : s.tokens = #[]) (hones : s.ones = ∅) (hmanys : s.manys = ∅) : s.Sound n :=
  ⟨htrusting, hlexer, by simp [htokens], by simp [hones], by simp [hmanys]⟩

theorem ofSource_sound {source : String} (h : Lexer.lineCount source ≤ n) :
    (ofSource source).Sound n := .first rfl (Lexer.ofSource_begun h) rfl rfl rfl

end ParseState

/-- A reply with sound memory, whose value has a property. -/
def Reply.Meets {α : Type} (n : Nat) (post : α → Prop) : Reply α → Prop
  | .ok a s => s.Sound n ∧ post a
  | .no s => s.Sound n
  | .stop _ _ => True

namespace Parser

variable {α β γ : Type} {n : Nat}

/-- With sound memory, the parser yields only values with a property and keeps the memory
sound. -/
def Gives (n : Nat) (p : Parser α) (post : α → Prop) : Prop :=
  ∀ s : ParseState, s.Sound n → (p s).Meets n post

/-- The parser keeps the memory sound. -/
def Keeps (n : Nat) (p : Parser α) : Prop := p.Gives n fun _ => True

namespace Gives

variable {p : Parser α} {q : Parser β} {f : α → Parser β} {P Q : α → Prop} {R : β → Prop}

theorem mono (h : p.Gives n P) (hQ : ∀ a, P a → Q a) : p.Gives n Q := by
  intro s hs
  have hp := h s hs
  cases hr : p s with
  | ok a s' => rw [hr] at hp; exact ⟨hp.1, hQ a hp.2⟩
  | no s' => rw [hr] at hp; exact hp
  | stop e s' => trivial

theorem keeps (h : p.Gives n P) : p.Keeps n := h.mono fun _ _ => trivial

theorem ret {a : α} (h : P a) : (pure a : Parser α).Gives n P := fun _ hs => ⟨hs, h⟩

theorem bind (h : p.Gives n P) (hf : ∀ a, P a → (f a).Gives n R) : (p >>= f).Gives n R := by
  intro s hs
  have hp := h s hs
  change Reply.Meets n R
    (match p s with | .ok a s => f a s | .no s => .no s | .stop e s => .stop e s)
  cases hr : p s with
  | ok a s' => rw [hr] at hp; exact hf a hp.2 s' hp.1
  | no s' => rw [hr] at hp; exact hp
  | stop e s' => trivial

/-- A value that only moves the mark. -/
theorem skip (h : p.Keeps n) (hf : ∀ a, (f a).Gives n R) : (p >>= f).Gives n R :=
  bind h fun a _ => hf a

theorem fail : (fail : Parser α).Gives n P := fun _ hs => hs

theorem ite {c : Prop} [Decidable c] {p' : Parser α} (h : c → p.Gives n P)
    (h' : ¬c → p'.Gives n P) :
    (if c then p else p').Gives n P := by
  split
  · next hc => exact h hc
  · next hc => exact h' hc

/-- Branches that go on in the same way. -/
theorem join {jp : α → Parser β} {body : (α → Parser β) → Parser β}
    (hjp : ∀ a, P a → (jp a).Gives n R)
    (hbody : ∀ k : α → Parser β, (∀ a, P a → (k a).Gives n R) → (body k).Gives n R) :
    (have k := jp; body k).Gives n R := hbody jp hjp

/-! ## Choice -/

theorem firstOf {ps : List (Parser α)} (h : ∀ p ∈ ps, p.Gives n P) : (firstOf ps).Gives n P := by
  induction ps with
  | nil => exact fail
  | cons p ps ih =>
      intro s hs
      have hp := h p List.mem_cons_self s hs
      simp only [Parser.firstOf]
      cases hr : p s with
      | ok a s' => rw [hr] at hp; exact hp
      | no s' =>
          rw [hr] at hp
          exact ih (fun q hq => h q (List.mem_cons_of_mem _ hq)) _ (hp.at s.mark)
      | stop e s' => trivial

theorem none_left : ∀ p ∈ ([] : List (Parser α)), p.Gives n P := by simp

/-- One alternative more. -/
theorem or {ps : List (Parser α)} (h : p.Gives n P) (hs : ∀ q ∈ ps, q.Gives n P) :
    ∀ q ∈ p :: ps, q.Gives n P := by
  intro q hq
  rcases List.mem_cons.mp hq with rfl | hq
  · exact h
  · exact hs q hq

theorem opt (h : p.Gives n P) : (opt p).Gives n fun o => ∀ a ∈ o, P a := by
  intro s hs
  have hp := h s hs
  simp only [Parser.opt]
  cases hr : p s with
  | ok a s' =>
      rw [hr] at hp
      exact ⟨hp.1, fun b hb => by cases hb; exact hp.2⟩
  | no s' => rw [hr] at hp; exact ⟨hp.at s.mark, fun b hb => by cases hb⟩
  | stop e s' => trivial

theorem commit {behind : α → Parser β} {otherwise : Parser β} (h : p.Gives n P)
    (hb : ∀ a, P a → (behind a).Gives n R) (ho : otherwise.Gives n R) :
    (commit p behind otherwise).Gives n R := by
  intro s hs
  have hp := h s hs
  simp only [Parser.commit]
  cases hr : p s with
  | ok a s' => rw [hr] at hp; exact hb a hp.2 s' hp.1
  | no s' => rw [hr] at hp; exact ho _ (hp.at s.mark)
  | stop e s' => trivial

/-! ## Repetition -/

theorem repeated (h : p.Gives n P) (fuel : Nat) {done : List α} (hdone : ∀ a ∈ done, P a) :
    (repeated p fuel done).Gives n fun as => ∀ a ∈ as, P a := by
  induction fuel generalizing done with
  | zero => exact ret fun a ha => hdone a (List.mem_reverse.mp ha)
  | succ fuel ih =>
      intro s hs
      have hp := h s hs
      simp only [Parser.repeated]
      cases hr : p s with
      | ok a s' =>
          rw [hr] at hp
          have hmore : ∀ b ∈ a :: done, P b := by
            intro b hb
            rcases List.mem_cons.mp hb with rfl | hb
            · exact hp.2
            · exact hdone b hb
          exact ih hmore s' hp.1
      | no s' =>
          rw [hr] at hp
          exact ⟨hp.at s.mark, fun a ha => hdone a (List.mem_reverse.mp ha)⟩
      | stop e s' => trivial

theorem many (h : p.Gives n P) : (many p).Gives n fun as => ∀ a ∈ as, P a :=
  fun s hs => repeated h s.limit (by simp) s hs

theorem many1 (h : p.Gives n P) : (many1 p).Gives n fun as => as ≠ [] ∧ ∀ a ∈ as, P a := by
  refine h.bind fun a ha => h.many.bind fun as has => ret ⟨List.cons_ne_nil _ _, ?_⟩
  intro b hb
  rcases List.mem_cons.mp hb with rfl | hb
  · exact ha
  · exact has b hb

theorem sepBy1 {separator : Parser β} (h : p.Gives n P) (hseparator : separator.Keeps n) :
    (sepBy1 p separator).Gives n fun as => as ≠ [] ∧ ∀ a ∈ as, P a := by
  refine h.bind fun a ha => (many (skip hseparator fun _ => h)).bind fun as has =>
    ret ⟨List.cons_ne_nil _ _, ?_⟩
  intro b hb
  rcases List.mem_cons.mp hb with rfl | hb
  · exact ha
  · exact has b hb

theorem chainFuel {step : α → Parser α} (hstep : ∀ a, P a → (step a).Gives n P) (fuel : Nat) {a : α}
    (ha : P a) : (chainFuel step fuel a).Gives n P := by
  induction fuel generalizing a with
  | zero => exact ret ha
  | succ fuel ih =>
      intro s hs
      have hp := hstep a ha s hs
      simp only [Parser.chainFuel]
      cases hr : step a s with
      | ok b s' => rw [hr] at hp; exact ih hp.2 s' hp.1
      | no s' => rw [hr] at hp; exact ⟨hp.at s.mark, ha⟩
      | stop e s' => trivial

theorem chain {step : α → Parser α} (h : p.Gives n P) (hstep : ∀ a, P a → (step a).Gives n P) :
    (chain p step).Gives n P :=
  h.bind fun _ ha s hs => chainFuel hstep s.limit ha s hs

/-- A loop over a list keeps what each turn keeps. -/
theorem forIn {as : List α} {b : β} {step : α → β → Parser (ForInStep β)} (hb : R b)
    (hstep : ∀ a b, R b → (step a b).Gives n fun r => R r.value) : (forIn as b step).Gives n R := by
  induction as generalizing b with
  | nil => simpa only [List.forIn_nil] using ret hb
  | cons a as ih =>
      rw [List.forIn_cons]
      refine (hstep a b hb).bind fun r hr => ?_
      cases r with
      | done b' => exact ret hr
      | yield b' => exact ih hr

/-! ## Mistakes -/

/-- Mistakes are not looked for. -/
theorem diagnose (alternatives : List (Parser Unit)) :
    (diagnose alternatives : Parser α).Gives n P := by
  intro s hs
  simp only [Parser.diagnose, hs.trusting, Bool.false_eq_true, if_false]
  exact hs

theorem faultAtLast (fault : Fault) : (faultAtLast fault : Parser α).Gives n P := fun _ _ => trivial

theorem faultAtToken (t : Token) (fault : Fault) : (faultAtToken t fault : Parser α).Gives n P := by
  intro s _
  unfold Parser.faultAtToken
  split <;> trivial

theorem faultAtLine (line : Nat) (fault : Fault) : (faultAtLine line fault : Parser α).Gives n P :=
  fun _ _ => trivial

theorem faultAtTree (t : Tree) (fault : Fault) : (faultAtTree t fault : Parser α).Gives n P :=
  fun _ _ => trivial

end Gives

namespace Keeps

variable {p : Parser α}

theorem ignore (h : p.Keeps n) : (ignore p).Keeps n := .skip h fun _ => .ret trivial

theorem opt (h : p.Keeps n) : (opt p).Keeps n := (Gives.opt h).keeps

theorem many (h : p.Keeps n) : (many p).Keeps n := (Gives.many h).keeps

theorem look (h : p.Keeps n) : (look p).Keeps n := by
  intro s hs
  have hp := h s hs
  simp only [Parser.look]
  cases hr : p s with
  | ok a s' => rw [hr] at hp; exact ⟨hp.1.at s.mark, trivial⟩
  | no s' => rw [hr] at hp; exact hp.at s.mark
  | stop e s' => trivial

theorem notLook (h : p.Keeps n) : (notLook p).Keeps n := by
  intro s hs
  have hp := h s hs
  simp only [Parser.notLook]
  cases hr : p s with
  | ok a s' => rw [hr] at hp; exact hp.1.at s.mark
  | no s' => rw [hr] at hp; exact ⟨hp.at s.mark, trivial⟩
  | stop e s' => trivial

theorem warn (warning : Warning) : (warn warning).Keeps n :=
  fun _ hs => ⟨⟨hs.trusting, hs.lexer, hs.tokens, hs.ones, hs.manys⟩, trivial⟩

theorem advance : advance.Keeps n := fun s hs => ⟨hs.at (s.mark + 1), trivial⟩

end Keeps

/-! ## Tokens -/

/-- **The next token stands on the lines.** -/
theorem Gives.peek : peek.Gives n (Token.Within n) := by
  intro s hs
  unfold Parser.peek
  split
  · next t hfound =>
    exact ⟨hs, hs.tokens t (Array.mem_of_getElem? hfound)⟩
  · have hnext := Lexer.next_inside hs.lexer
    dsimp only
    split
    · next t hread =>
      obtain ⟨hinside, hwithin⟩ := hnext t hread
      have hkept : Lexer.Inside n { s.lexer.next.2 with warnings := [] } :=
        hinside.congr rfl rfl rfl
      refine ⟨⟨hs.trusting, hkept.begun, ?_, hs.ones, hs.manys⟩, hwithin⟩
      intro u hu
      rcases Array.mem_push.mp hu with hu | rfl
      · exact hs.tokens u hu
      · exact hwithin
    · trivial

theorem Gives.satisfy (accepts : Token → Bool) :
    (satisfy accepts).Gives n fun t => t.Within n ∧ accepts t = true :=
  .bind .peek fun _ ht => .ite (fun haccepts => .skip .advance fun _ => .ret ⟨ht, haccepts⟩)
    fun _ => .fail

theorem Gives.kind (k : TokenKind) : (kind k).Gives n fun t => t.Within n ∧ t.kind = k :=
  (satisfy _).mono fun _ h => ⟨h.1, of_decide_eq_true h.2⟩

namespace Keeps

theorem peek : peek.Keeps n := Gives.peek.keeps

theorem satisfy (accepts : Token → Bool) : (satisfy accepts).Keeps n := (Gives.satisfy _).keeps

theorem kind (k : TokenKind) : (kind k).Keeps n := satisfy _

theorem punct (text : String) : (punct text).Keeps n := satisfy _

theorem keyword (text : String) : (keyword text).Keeps n := satisfy _

theorem softKeyword (text : String) : (softKeyword text).Keeps n := satisfy _

theorem forced (text : String) : (forced text).Keeps n :=
  .skip peek fun _ => .ite (fun _ => .skip advance fun _ => .ret trivial) fun _ => .faultAtToken _ _

theorem identifier : identifier.Keeps n := .skip (kind .name) fun _ => .ret trivial

end Keeps

/-- **A name has neither a point nor a star in it.** -/
theorem Gives.identifier :
    identifier.Gives n fun name => '.' ∉ name.toList ∧ '*' ∉ name.toList :=
  .bind (.kind .name) fun _ ht => .ret
    ⟨Text.not_mem_normalizeName (ht.1.name ht.2) rfl (by decide),
      Text.not_mem_normalizeName (ht.1.name ht.2) rfl (by decide)⟩

/-- A span begins on the line of its first token. -/
theorem Gives.spanFrom {start : Token} (h : start.Within n) :
    (spanFrom start).Gives n fun span => span.isOn n = true := by
  refine .skip (fun s hs => ?_) fun _ => .ret ?_
  · unfold endOfLast
    split <;> exact ⟨hs, trivial⟩
  · simp [Span.isOn, h.pos, h.le]

/-! ## Whole readings -/

/-- What is read from a whole source has the property too: a second reading yields nothing. -/
theorem Gives.read {p : Parser α} {P : α → Prop} (h : p.Gives n P) {s : ParseState} (hs : s.Sound n)
    {a : α} {warnings : List Warning} (hread : Parser.read p s = .ok (a, warnings)) : P a := by
  have hp := h s hs
  unfold Parser.read at hread
  cases hr : p s with
  | ok b s' =>
      rw [hr] at hread hp
      cases hread
      exact hp.2
  | no s' =>
      rw [hr] at hread
      dsimp only at hread
      split at hread <;> cases hread
  | stop e s' => rw [hr] at hread; cases hread

/-! ## Nodes -/

/-- A node of category `c` can be made of a kind and some fields on the first `n` lines. -/
def Built (n : Nat) (c : Category) (r : Kind × List (List Tree)) : Prop :=
  r.1.category = c ∧ (r.1.hasSpan && r.1.listsAsWritten r.2) = true
    ∧ Slot.AllFilledOn n r.1.slots r.2

theorem Built.node {c : Category} {r : Kind × List (List Tree)} (h : Built n c r) {span : Span}
    (hspan : span.isOn n = true) : On n c (.node r.1 (some span) r.2) := by
  obtain ⟨hcategory, hkind, hfields⟩ := h
  rw [Bool.and_eq_true] at hkind
  exact .node hcategory hkind.1.symm hspan hkind.2 hfields

namespace Gives

variable {c : Category} {k : Kind} {fs : List (List Tree)}

theorem nodeFrom {start : Token} (hstart : start.Within n) (h : Built n c (k, fs)) :
    (nodeFrom start k fs).Gives n (On n c) :=
  .bind (.spanFrom hstart) fun _ hspan => .ret (h.node hspan)

/-- The node that is made of what `p` yields, at some place. -/
theorem locatedAs {p : Parser (Kind × List (List Tree))} {P : Kind × List (List Tree) → Prop}
    {Q : Tree → Prop} (h : p.Gives n P)
    (hQ : ∀ r span, P r → span.isOn n = true → Q (.node r.1 (some span) r.2)) :
    (located p).Gives n Q :=
  .bind .peek fun _ hstart => h.bind fun r hr => .bind (.spanFrom hstart) fun span hspan =>
    .ret (hQ r span hr hspan)

theorem located {p : Parser (Kind × List (List Tree))} (h : p.Gives n (Built n c)) :
    (located p).Gives n (On n c) :=
  locatedAs h fun _ _ hr hspan => hr.node hspan

end Gives

theorem leaf_on {c : Category} {t : Token} (h : t.Within n) (k : Kind) (hcategory : k.category = c)
    (hspan : k.hasSpan = true) (hslots : k.slots = []) : On n c (leaf t k) :=
  .node hcategory hspan.symm (by simp [Span.isOn, h.pos, h.le]) k.listsAsWritten_nil
    (by rw [hslots]; trivial)

theorem Gives.nameTree : nameTree.Gives n (On n .expression) :=
  .bind (.kind .name) fun _ ht => .ret (leaf_on ht.1 _ rfl rfl rfl)

end Parser

/-- What part of a grammar relies on when it calls rules. -/
structure Rules.Sound (n : Nat) (g : Rules) : Prop where
  one : ∀ rule, (g.one rule).Gives n (rule.Yields n)
  many : ∀ rule, (g.many rule).Gives n (SomeOn n rule.category)

end SourceLoader
