import SourceLoader.Proofs.Marks.Laid
import SourceLoader.Proofs.Parsing

/-!
# What parsers read from a mark on

`p.Reads v i post` says what a parser yields that starts at the mark `i` with memory that is in line
with the tokens of the source: it ends at a later mark, and this mark and the value have a property.
As in `Gives`, there is one lemma for each way to put parsers together. What is read by one parser
after the other lies between marks one behind the other, so that the trees of a list form a `Row`.

Memory is in line with a source if the tokens in it are those of the source and each rule remembers
where it ended and what it may have read up to there.
-/

namespace SourceLoader

open Dependencies

/-! ## What rules read -/

variable {v : Survey} {i j : ℕ}

/-- A name begins with the token at the mark, if only with a parenthesis. -/
def Headed (v : Survey) (i : ℕ) (t : Tree) : Prop :=
  ∀ id usage, t.kind = .name id usage → ∃ token, v.lexer.TokenAt i token ∧ token.isWord = true

/-- The arguments of a call of nothing lie between two marks. -/
def Tree.ArgumentsLaid (v : Survey) (i j : ℕ) (t : Tree) : Prop :=
  ∃ k s arguments keywords, t = .node k s [[], arguments, keywords]
    ∧ AllLaid v i j arguments ∧ AllLaid v i j keywords

/-- What a rule reads between two marks. A pattern declares nothing, wherever it stands. -/
def OneRule.Lays (v : Survey) (i j : ℕ) : OneRule → Tree → Prop
  | .arguments | .callArguments => Tree.ArgumentsLaid v i j
  | .pattern | .closedPattern | .starPattern | .patternName | .casePatterns => Still v.imports
  | .strings => fun t => Still v.imports t ∧ ∀ id usage, t.kind ≠ .name id usage
  | .atom => fun t => Laid v i j t ∧ Headed v i t
  | .generator => fun t => Laid v i j t ∧ i < j
  | _ => Laid v i j

/-- What a rule reads between two marks. -/
def ManyRule.Lays (v : Survey) (i j : ℕ) : ManyRule → List Tree → Prop
  | .patternElements | .openPatternElements => fun ts => ∀ t ∈ ts, Still v.imports t
  | _ => Row (Laid v) i j

/-- The mark that a place belongs to. -/
def markOf (place : ℕ) : ℕ := place / 256

/-- The memory of a parser is in line with its source. -/
structure ParseState.Aligned (v : Survey) (s : ParseState) : Prop where
  trusting : s.diagnosing = false
  mark : s.mark ≤ s.tokens.size
  lexer : v.lexer.after? s.tokens.size = some s.lexer
  tokens : ∀ k t, s.tokens[k]? = some t → v.lexer.TokenAt k t
  ones : ∀ place t stop, s.ones[place]? = some (some (t, stop)) →
    markOf place ≤ stop ∧ stop ≤ s.tokens.size ∧
      ∀ rule : OneRule, ruleOf place = rule.ctorIdx → rule.Lays v (markOf place) stop t
  manys : ∀ place ts stop, s.manys[place]? = some (some (ts, stop)) →
    markOf place ≤ stop ∧ stop ≤ s.tokens.size ∧
      ∀ rule : ManyRule, ruleOf place = rule.ctorIdx → rule.Lays v (markOf place) stop ts

namespace ParseState

variable {s : ParseState}

theorem Aligned.at (h : s.Aligned v) {mark : ℕ} (hmark : mark ≤ s.tokens.size) :
    { s with mark }.Aligned v :=
  ⟨h.trusting, hmark, h.lexer, h.tokens, h.ones, h.manys⟩

/-- Nothing is remembered yet. -/
theorem Aligned.first (hlexer : s.lexer = v.lexer) (htokens : s.tokens = #[]) (hmark : s.mark = 0)
    (htrusting : s.diagnosing = false) (hones : s.ones = ∅) (hmanys : s.manys = ∅) :
    s.Aligned v := by
  refine ⟨htrusting, by simp [hmark], ?_, ?_, ?_, ?_⟩
  · rw [htokens, hlexer]
    rfl
  · simp [htokens]
  · simp [hones]
  · simp [hmanys]

end ParseState

/-- A reply of a parser that started at the mark `i`. -/
def Reply.Lands {α : Type} (v : Survey) (i : ℕ) (post : ℕ → α → Prop) : Reply α → Prop
  | .ok a s => s.Aligned v ∧ i ≤ s.mark ∧ post s.mark a
  | .no s => s.Aligned v ∧ i ≤ s.tokens.size
  | .stop _ _ => True

theorem Reply.Lands.since {α : Type} {post : ℕ → α → Prop} {reply : Reply α}
    (h : reply.Lands v j post) (hij : i ≤ j) : reply.Lands v i post := by
  cases reply with
  | ok a s => exact ⟨h.1, hij.trans h.2.1, h.2.2⟩
  | no s => exact ⟨h.1, hij.trans h.2⟩
  | stop e s => trivial

namespace Parser

variable {α β γ : Type}

/-- From the mark `i` on, the parser reads up to a mark with a value that have a property. -/
def Reads (p : Parser α) (v : Survey) (i : ℕ) (post : ℕ → α → Prop) : Prop :=
  ∀ s : ParseState, s.Aligned v → s.mark = i → (p s).Lands v i post

/-- The same, if the token at the mark was looked at already. -/
def ReadsSeen (p : Parser α) (v : Survey) (i : ℕ) (post : ℕ → α → Prop) : Prop :=
  ∀ s : ParseState, s.Aligned v → s.mark = i → i < s.tokens.size → (p s).Lands v i post

/-- The parser moves on at most. -/
def Passes (p : Parser α) (v : Survey) (i : ℕ) : Prop := p.Reads v i fun _ _ => True

theorem bind_apply (p : Parser α) (f : α → Parser β) (s : ParseState) :
    (p >>= f) s
      = match p s with | .ok a s => f a s | .no s => .no s | .stop e s => .stop e s := rfl

namespace Reads

variable {p : Parser α} {q : Parser β} {f : α → Parser β} {P Q : ℕ → α → Prop} {R : ℕ → β → Prop}

theorem seen (h : p.Reads v i P) : p.ReadsSeen v i P := fun s hs hi _ => h s hs hi

theorem mono (h : p.Reads v i P) (hQ : ∀ j a, i ≤ j → P j a → Q j a) : p.Reads v i Q := by
  intro s hs hi
  have hp := h s hs hi
  cases hr : p s with
  | ok a s' => rw [hr] at hp; exact ⟨hp.1, hp.2.1, hQ _ a hp.2.1 hp.2.2⟩
  | no s' => rw [hr] at hp; exact hp
  | stop e s' => trivial

theorem passes (h : p.Reads v i P) : p.Passes v i := h.mono fun _ _ _ _ => trivial

theorem ret {a : α} (h : P i a) : (pure a : Parser α).Reads v i P := by
  rintro s hs rfl
  exact ⟨hs, le_rfl, h⟩

theorem bind (h : p.Reads v i P) (hf : ∀ j a, i ≤ j → P j a → (f a).Reads v j R) :
    (p >>= f).Reads v i R := by
  intro s hs hi
  have hp := h s hs hi
  rw [bind_apply]
  cases hr : p s with
  | ok a s' =>
      rw [hr] at hp
      exact (hf _ a hp.2.1 hp.2.2 s' hp.1 rfl).since hp.2.1
  | no s' => rw [hr] at hp; exact hp
  | stop e s' => trivial

/-- A value that only moves the mark. -/
theorem skip (h : p.Passes v i) (hf : ∀ j a, i ≤ j → (f a).Reads v j R) : (p >>= f).Reads v i R :=
  bind h fun j a hj _ => hf j a hj

theorem fail : (fail : Parser α).Reads v i P := by
  rintro s hs rfl
  exact ⟨hs, hs.mark⟩

theorem ite {c : Prop} [Decidable c] {p' : Parser α} (h : c → p.Reads v i P)
    (h' : ¬c → p'.Reads v i P) : (if c then p else p').Reads v i P := by
  split
  · next hc => exact h hc
  · next hc => exact h' hc

/-- Branches that go on in the same way. -/
theorem join {jp : α → Parser β} {body : (α → Parser β) → Parser β}
    (hjp : ∀ j a, i ≤ j → P j a → (jp a).Reads v j R)
    (hbody : ∀ k : α → Parser β, (∀ j a, i ≤ j → P j a → (k a).Reads v j R) →
      (body k).Reads v i R) : (have k := jp; body k).Reads v i R := hbody jp hjp

/-! ## Choice -/

theorem firstOf {ps : List (Parser α)} (h : ∀ p ∈ ps, p.Reads v i P) :
    (firstOf ps).Reads v i P := by
  induction ps with
  | nil => exact fail
  | cons p ps ih =>
      rintro s hs rfl
      have hp := h p List.mem_cons_self s hs rfl
      simp only [Parser.firstOf]
      cases hr : p s with
      | ok a s' => rw [hr] at hp; exact hp
      | no s' =>
          rw [hr] at hp
          exact ih (fun q hq => h q (List.mem_cons_of_mem _ hq)) _ (hp.1.at hp.2) rfl
      | stop e s' => trivial

theorem none_left : ∀ p ∈ ([] : List (Parser α)), p.Reads v i P := by simp

/-- One alternative more. -/
theorem or {ps : List (Parser α)} (h : p.Reads v i P) (hs : ∀ q ∈ ps, q.Reads v i P) :
    ∀ q ∈ p :: ps, q.Reads v i P := by
  intro q hq
  rcases List.mem_cons.mp hq with rfl | hq
  · exact h
  · exact hs q hq

theorem opt (h : p.Reads v i P) : (opt p).Reads v i fun j o => ∀ a ∈ o, P j a := by
  rintro s hs rfl
  have hp := h s hs rfl
  simp only [Parser.opt]
  cases hr : p s with
  | ok a s' =>
      rw [hr] at hp
      exact ⟨hp.1, hp.2.1, fun b hb => by cases hb; exact hp.2.2⟩
  | no s' => rw [hr] at hp; exact ⟨hp.1.at hp.2, le_rfl, fun b hb => by cases hb⟩
  | stop e s' => trivial

theorem commit {behind : α → Parser β} {otherwise : Parser β} (h : p.Reads v i P)
    (hb : ∀ j a, i ≤ j → P j a → (behind a).Reads v j R) (ho : otherwise.Reads v i R) :
    (commit p behind otherwise).Reads v i R := by
  rintro s hs rfl
  have hp := h s hs rfl
  simp only [Parser.commit]
  cases hr : p s with
  | ok a s' =>
      rw [hr] at hp
      exact (hb _ a hp.2.1 hp.2.2 s' hp.1 rfl).since hp.2.1
  | no s' => rw [hr] at hp; exact ho _ (hp.1.at hp.2) rfl
  | stop e s' => trivial

/-! ## Repetition -/

section Row

variable {L : ℕ → ℕ → α → Prop}

theorem repeated (h : ∀ i, p.Reads v i (L i)) (fuel : ℕ) {first : ℕ} {done : List α}
    (hdone : Row L first i done.reverse) :
    (repeated p fuel done).Reads v i fun j => Row L first j := by
  induction fuel generalizing done i with
  | zero => exact ret hdone
  | succ fuel ih =>
      rintro s hs rfl
      have hp := h _ s hs rfl
      simp only [Parser.repeated]
      cases hr : p s with
      | ok a s' =>
          rw [hr] at hp
          have hmore : Row L first s'.mark (a :: done).reverse := by
            rw [List.reverse_cons]
            have hstep := hp.2.1
            exact hdone.append (.one hp.2.2 hstep) le_rfl
          exact (ih hmore s' hp.1 rfl).since hp.2.1
      | no s' => rw [hr] at hp; exact ⟨hp.1.at hp.2, le_rfl, hdone⟩
      | stop e s' => trivial

theorem many (h : ∀ i, p.Reads v i (L i)) : (many p).Reads v i (Row L i) :=
  fun s hs hi => repeated h s.limit (.none i) s hs hi

theorem many1 (h : ∀ i, p.Reads v i (L i)) : (many1 p).Reads v i (Row L i) :=
  (h i).bind fun _ _ hj ha => (many h).bind fun _ _ _ has => ret (.step le_rfl ha hj has)

/-- A value behind a separator. -/
theorem separated {separator : Parser β} (hseparator : ∀ i, separator.Passes v i)
    (h : ∀ i, p.Reads v i (L i)) (i : ℕ) : Parser.Reads (do let _ ← separator; p) v i
      fun j a => ∃ i', i ≤ i' ∧ i' ≤ j ∧ L i' j a :=
  skip (hseparator i) fun i' _ hi' => (h i').mono fun _ _ hj ha => ⟨i', hi', hj, ha⟩

theorem manyBehind {separator : Parser β} (hseparator : ∀ i, separator.Passes v i)
    (h : ∀ i, p.Reads v i (L i)) :
    (Parser.many do let _ ← separator; p).Reads v i (Row L i) :=
  (many (separated hseparator h)).mono fun _ _ _ has => has.of_later

theorem many1Behind {separator : Parser β} (hseparator : ∀ i, separator.Passes v i)
    (h : ∀ i, p.Reads v i (L i)) :
    (Parser.many1 do let _ ← separator; p).Reads v i (Row L i) :=
  (many1 (separated hseparator h)).mono fun _ _ _ has => has.of_later

theorem sepBy1 {separator : Parser β} (h : ∀ i, p.Reads v i (L i))
    (hseparator : ∀ i, separator.Passes v i) : (sepBy1 p separator).Reads v i (Row L i) :=
  (h i).bind fun _ _ hj ha => (manyBehind hseparator h).bind fun _ _ _ has =>
    ret (.step le_rfl ha hj has)

end Row

theorem chainFuel {step : α → Parser α} (hstep : ∀ j a, i ≤ j → P j a → (step a).Reads v j P)
    (fuel : ℕ) {a : α} (hij : i ≤ j) (ha : P j a) : (chainFuel step fuel a).Reads v j P := by
  induction fuel generalizing a j with
  | zero => exact ret ha
  | succ fuel ih =>
      rintro s hs rfl
      have hp := hstep _ a hij ha s hs rfl
      simp only [Parser.chainFuel]
      cases hr : step a s with
      | ok b s' =>
          rw [hr] at hp
          exact (ih (hij.trans hp.2.1) hp.2.2 s' hp.1 rfl).since hp.2.1
      | no s' => rw [hr] at hp; exact ⟨hp.1.at hp.2, le_rfl, ha⟩
      | stop e s' => trivial

theorem chain {step : α → Parser α} (h : p.Reads v i P)
    (hstep : ∀ j a, i ≤ j → P j a → (step a).Reads v j P) : (chain p step).Reads v i P :=
  h.bind fun _ _ hj ha s hs hi => chainFuel hstep s.limit hj ha s hs hi

/-- A loop over a list keeps what each turn keeps. -/
theorem forIn {R : β → Prop} {as : List α} {b : β} {step : α → β → Parser (ForInStep β)} (hb : R b)
    (hstep : ∀ i a b, R b → (step a b).Reads v i fun _ r => R r.value) :
    (forIn as b step).Reads v i fun _ => R := by
  induction as generalizing b i with
  | nil => simpa only [List.forIn_nil] using ret hb
  | cons a as ih =>
      rw [List.forIn_cons]
      refine (hstep i a b hb).bind fun j r _ hr => ?_
      cases r with
      | done b' => exact ret hr
      | yield b' => exact ih hr

/-! ## Mistakes -/

/-- Mistakes are not looked for. -/
theorem diagnose (alternatives : List (Parser Unit)) :
    (diagnose alternatives : Parser α).Reads v i P := by
  rintro s hs rfl
  simp only [Parser.diagnose, hs.trusting, Bool.false_eq_true, if_false]
  exact ⟨hs, hs.mark⟩

theorem faultAtLast (fault : Fault) : (faultAtLast fault : Parser α).Reads v i P :=
  fun _ _ _ => trivial

theorem faultAtToken (t : Token) (fault : Fault) : (faultAtToken t fault : Parser α).Reads v i P := by
  intro s _ _
  unfold Parser.faultAtToken
  split <;> trivial

theorem faultAtLine (line : Nat) (fault : Fault) : (faultAtLine line fault : Parser α).Reads v i P :=
  fun _ _ _ => trivial

theorem faultAtTree (t : Tree) (fault : Fault) : (faultAtTree t fault : Parser α).Reads v i P :=
  fun _ _ _ => trivial

/-! ## Tokens -/

/-- The next token is read from the lexer if it was not looked at before. What follows may rely on
that it was. -/
theorem peek {f : Token → Parser β}
    (hf : ∀ t, v.lexer.TokenAt i t → (f t).ReadsSeen v i R) : (peek >>= f).Reads v i R := by
  rintro s hs rfl
  rw [bind_apply]
  cases hfound : s.tokens[s.mark]? with
  | some t =>
    simp only [Parser.peek, hfound]
    have hsize := (Array.getElem?_eq_some_iff.mp hfound).1
    exact hf t (hs.tokens _ t hfound) s hs rfl hsize
  | none =>
    have hall : s.tokens.size = s.mark :=
      le_antisymm (Array.getElem?_eq_none_iff.mp hfound) hs.mark
    cases hread : s.lexer.next with
    | mk read lexer =>
    simp only [Parser.peek, hfound, hread]
    cases read with
    | error stop => trivial
    | ok t =>
        have htoken : v.lexer.TokenAt s.tokens.size t :=
          ⟨s.lexer, hs.lexer, congrArg Prod.fst hread⟩
        have hnew : ParseState.Aligned v
            { s with
              lexer := { lexer with warnings := [] }, warnings := lexer.warnings ++ s.warnings,
              tokens := s.tokens.push t } := by
          refine ⟨hs.trusting, ?_, ?_, ?_, ?_, ?_⟩
          · simp only [Array.size_push]
            exact hs.mark.trans (Nat.le_succ _)
          · simp only [Array.size_push]
            exact Lexer.after?_succ hs.lexer hread
          · intro k u hu
            rw [Array.getElem?_push] at hu
            split at hu
            · next hk => cases hu; rw [hk]; exact htoken
            · exact hs.tokens k u hu
          · intro place u stop hfound
            obtain ⟨hle, hstop, hrule⟩ := hs.ones place u stop hfound
            exact ⟨hle, by simp only [Array.size_push]; omega, hrule⟩
          · intro place us stop hfound
            obtain ⟨hle, hstop, hrule⟩ := hs.manys place us stop hfound
            exact ⟨hle, by simp only [Array.size_push]; omega, hrule⟩
        refine hf t (hall ▸ htoken) _ hnew rfl ?_
        simp only [Array.size_push]
        omega

theorem advance {f : Unit → Parser β} (hf : (f ()).Reads v (i + 1) R) :
    (advance >>= f).ReadsSeen v i R := by
  rintro s hs rfl hsize
  exact (hf _ (hs.at hsize) rfl).since (Nat.le_succ _)

/-- What a token reads that is asked for. -/
theorem satisfy (accepts : Token → Bool) : (satisfy accepts).Reads v i fun j t =>
    j = i + 1 ∧ v.lexer.TokenAt i t ∧ accepts t = true := by
  refine peek fun t ht => ?_
  split
  · next haccepts => exact advance (ret ⟨rfl, ht, haccepts⟩)
  · exact seen fail

theorem kind (k : TokenKind) : (kind k).Reads v i fun j t =>
    j = i + 1 ∧ v.lexer.TokenAt i t ∧ t.kind = k :=
  (satisfy _).mono fun _ _ _ h => ⟨h.1, h.2.1, by simpa using h.2.2⟩

theorem punct (text : String) : (punct text).Reads v i fun j t =>
    j = i + 1 ∧ v.lexer.TokenAt i t ∧ t.isWord = true := by
  refine (satisfy _).mono fun _ t _ h => ⟨h.1, h.2.1, ?_⟩
  have hkind : t.kind = .punct := by simpa using (Bool.and_eq_true_iff.mp h.2.2).1
  rw [Token.isWord, hkind]

/-- The token of a keyword. -/
theorem keywordToken (text : String) : (keyword text).Reads v i fun j t =>
    j = i + 1 ∧ v.lexer.TokenAt i t ∧ t.kind = .keyword ∧ t.text = text := by
  refine (satisfy _).mono fun _ t _ h => ⟨h.1, h.2.1, ?_⟩
  simpa using h.2.2

theorem keyword (text : String) : (keyword text).Reads v i fun j t =>
    j = i + 1 ∧ v.lexer.TokenAt i t ∧ t.isWord = true := by
  refine (keywordToken text).mono fun _ t _ h => ⟨h.1, h.2.1, ?_⟩
  rw [Token.isWord, h.2.2.1]

theorem spanFrom (start : Token) : (spanFrom start).Reads v i fun j span =>
    j = i ∧ toLex (span.line, span.column) = start.start := by
  refine bind (P := fun j _ => j = i) ?_ fun j _ _ hj => ret ⟨hj, rfl⟩
  rintro s hs rfl
  unfold endOfLast
  split <;> exact ⟨hs, le_rfl, rfl⟩

/-! ## Nodes -/

/-- A tree that is read later lies between wider marks. -/
theorem lower {p : Parser Tree} (h : p.Reads v j (Laid v j)) (hij : i ≤ j) :
    p.Reads v j (Laid v i) := h.mono fun _ _ _ ht => ht.mono hij le_rfl

theorem lowerRow {p : Parser (List Tree)} (h : p.Reads v j (Row (Laid v) j)) (hij : i ≤ j) :
    p.Reads v j (Row (Laid v) i) := h.mono fun _ _ _ hts => hts.mono hij le_rfl

theorem lowerMakes {p : Parser (Kind × List (List Tree))} (h : p.Reads v j (Makes v j))
    (hij : i ≤ j) : p.Reads v j (Makes v i) := h.mono fun _ _ _ hr => hr.mono hij le_rfl

theorem nodeFrom {start : Token} {k : Kind} {fs : List (List Tree)} (h : Makes v i j (k, fs)) :
    (nodeFrom start k fs).Reads v j (Laid v i) :=
  (spanFrom start).bind fun _ span _ hspan => ret (hspan.1 ▸ h.laid (some span))

/-- The node that is made of what `p` reads, at the place of the first token. -/
theorem locatedAs {p : Parser (Kind × List (List Tree))} {P : ℕ → Kind × List (List Tree) → Prop}
    {Q : ℕ → Tree → Prop} (h : p.Reads v i P)
    (hQ : ∀ j r span start, i ≤ j → v.lexer.TokenAt i start →
      toLex (span.line, span.column) = start.start → P j r → Q j (.node r.1 (some span) r.2)) :
    (located p).Reads v i Q :=
  peek fun start hstart => (h.bind fun j r hj hr => (spanFrom start).bind fun _ span _ hspan =>
    ret (hspan.1 ▸ hQ j r span start hj hstart hspan.2 hr)).seen

theorem located {p : Parser (Kind × List (List Tree))} (h : p.Reads v i (Makes v j)) :
    (located p).Reads v i (Laid v j) :=
  locatedAs h fun _ _ span _ _ _ _ hr => hr.laid (some span)

theorem still {p : Parser (Kind × List (List Tree))}
    (h : p.Reads v i fun _ r =>
      r.1.declares = false ∧ ∀ f ∈ r.2, ∀ t ∈ f, Still v.imports t) :
    (Parser.located p).Reads v i fun _ => Still v.imports :=
  locatedAs h fun _ _ span _ _ _ _ hr => .node hr.1 hr.2 (some span)

end Reads

theorem leaf_still {k : Kind} (hk : k.declares = false) (t : Token) (b : Bool) :
    Still b (leaf t k) := .node hk (by simp) _

theorem Reads.nameTree : nameTree.Reads v i fun j t =>
    j = i + 1 ∧ Still v.imports t ∧ Headed v i t := by
  refine (Reads.kind .name).bind fun j token _ h => .ret ⟨h.1, leaf_still rfl token _, ?_⟩
  intro id usage _
  have hword : token.isWord = true := by rw [Token.isWord, h.2.2]
  exact ⟨token, h.2.1, hword⟩

namespace Passes

variable {p : Parser α}

theorem ignore (h : p.Passes v i) : (ignore p).Passes v i := .skip h fun _ _ _ => .ret trivial

theorem opt (h : p.Passes v i) : (opt p).Passes v i := (Reads.opt h).passes

theorem many (h : ∀ i, p.Passes v i) : (many p).Passes v i :=
  (Reads.many (L := fun _ _ _ => True) h).passes

theorem look (h : p.Passes v i) : (look p).Passes v i := by
  rintro s hs rfl
  have hp := h s hs rfl
  simp only [Parser.look]
  cases hr : p s with
  | ok a s' => rw [hr] at hp; exact ⟨hp.1.at (hp.2.1.trans hp.1.mark), le_rfl, trivial⟩
  | no s' => rw [hr] at hp; exact ⟨hp.1.at hp.2, hp.2⟩
  | stop e s' => trivial

theorem notLook (h : p.Passes v i) : (notLook p).Passes v i := by
  rintro s hs rfl
  have hp := h s hs rfl
  simp only [Parser.notLook]
  cases hr : p s with
  | ok a s' =>
      rw [hr] at hp
      have hsize := hp.2.1.trans hp.1.mark
      exact ⟨hp.1.at hsize, hsize⟩
  | no s' => rw [hr] at hp; exact ⟨hp.1.at hp.2, le_rfl, trivial⟩
  | stop e s' => trivial

theorem warn (warning : Warning) : (warn warning).Passes v i := by
  rintro s hs rfl
  exact ⟨⟨hs.trusting, hs.mark, hs.lexer, hs.tokens, hs.ones, hs.manys⟩, le_rfl, trivial⟩

theorem kind (k : TokenKind) : (kind k).Passes v i := (Reads.kind k).passes

theorem punct (text : String) : (punct text).Passes v i := (Reads.punct text).passes

theorem keyword (text : String) : (keyword text).Passes v i := (Reads.keyword text).passes

theorem softKeyword (text : String) : (softKeyword text).Passes v i := (Reads.satisfy _).passes

theorem forced (text : String) : (forced text).Passes v i := by
  refine Reads.peek fun t _ => ?_
  split
  · exact Reads.advance (.ret trivial)
  · exact (Reads.faultAtToken t _).seen

theorem identifier : identifier.Passes v i := .skip (kind .name) fun _ _ _ => .ret trivial

end Passes

/-! ## Whole readings -/

/-- What is read from a whole source has the property too: a second reading yields nothing. -/
theorem Reads.read {p : Parser α} {P : ℕ → α → Prop} (h : p.Reads v 0 P) {s : ParseState}
    (hs : s.Aligned v) (hmark : s.mark = 0) {a : α} {warnings : List Warning}
    (hread : Parser.read p s = .ok (a, warnings)) : ∃ j, P j a := by
  have hp := h s hs hmark
  unfold Parser.read at hread
  cases hr : p s with
  | ok b s' =>
      rw [hr] at hread hp
      cases hread
      exact ⟨_, hp.2.2⟩
  | no s' =>
      rw [hr] at hread
      dsimp only at hread
      split at hread <;> cases hread
  | stop e s' => rw [hr] at hread; cases hread

end Parser

/-- What part of a grammar relies on when it calls rules, in whatever source. -/
structure Rules.Lays (g : Rules) : Prop where
  one : ∀ {v : Survey} {i : ℕ} (rule : OneRule), (g.one rule).Reads v i fun j => rule.Lays v i j
  many : ∀ {v : Survey} {i : ℕ} (rule : ManyRule), (g.many rule).Reads v i fun j => rule.Lays v i j

end SourceLoader
