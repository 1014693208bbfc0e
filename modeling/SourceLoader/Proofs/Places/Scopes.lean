import SourceLoader.Proofs.Places.Agree
import SourceLoader.Proofs.Places.Covers
import SourceLoader.Proofs.Places.Moved

/-!
# Scopes at other places

What a module says about its names does not go by places: places are kept only for messages
(`checkModule_eraseSpans`). Each step of a reading keeps the one reading covering the other
(`Alike`), so the same trees at other places are read alike (`tree_alike_all`), in whatever block
they stand.
-/

namespace SourceLoader

namespace Scope

open Tree (moved moved_node eraseSpans)

/-! ## States -/

/-- Two readings stand in blocks of the same kinds, and the first one covers the second one. -/
structure Beside (loose : Prop) (kinds : List BlockKind) (s s' : State) : Prop where
  className_eq : s'.className = s.className
  blocks : List.Forall₂ (OpenBlock.Covers loose) (blocks s) (blocks s')
  kinds_eq : (Scope.blocks s).map OpenBlock.kind = kinds

theorem blocks_set (s : State) (n : Nat) (b : OpenBlock) :
    blocks (s.set n b) = (blocks s).set n b := by
  cases n <;> rfl

theorem className_set (s : State) (n : Nat) (b : OpenBlock) :
    (s.set n b).className = s.className := by
  cases n <;> rfl

section

variable {α β : Type} {R : α → β → Prop} {as : List α} {bs : List β}

/-- Related rows are equally long and related at each position. -/
theorem forall₂_getElem? (h : List.Forall₂ R as bs) (n : Nat) :
    as[n]? = none ∧ bs[n]? = none ∨ ∃ a b, as[n]? = some a ∧ bs[n]? = some b ∧ R a b := by
  induction h generalizing n with
  | nil => exact .inl ⟨rfl, rfl⟩
  | cons hhead _ ih =>
      cases n with
      | zero => exact .inr ⟨_, _, rfl, rfl, hhead⟩
      | succ n => exact ih n

theorem forall₂_set (h : List.Forall₂ R as bs) (n : Nat) {a : α} {b : β} (hab : R a b) :
    List.Forall₂ R (as.set n a) (bs.set n b) := by
  induction h generalizing n with
  | nil => exact .nil
  | cons hhead htail ih =>
      cases n with
      | zero => exact .cons hab htail
      | succ n => exact .cons hhead (ih n)

end

theorem map_set_of_eq {α β : Type} {f : α → β} {as : List α} {n : Nat} {a a' : α}
    (h : as[n]? = some a) (hf : f a' = f a) : (as.set n a').map f = as.map f := by
  induction as generalizing n with
  | nil => rfl
  | cons first as ih =>
      cases n with
      | zero => cases h; simp [hf]
      | succ n => simpa using ih h

namespace Beside

variable {loose : Prop} {kinds : List BlockKind} {s s' : State}

theorem symm (h : Beside False kinds s s') : Beside False kinds s' s where
  className_eq := h.className_eq.symm
  blocks := h.blocks.flip.imp fun _ _ => OpenBlock.Covers.symm
  kinds_eq := by
    rw [← h.kinds_eq]
    refine List.forall₂_eq_eq_eq ▸ List.forall₂_map_left_iff.mpr (List.forall₂_map_right_iff.mpr ?_)
    exact h.blocks.flip.imp fun _ _ hcovers => hcovers.kind

variable (h : Beside loose kinds s s')

include h

theorem current : OpenBlock.Covers loose s.current s'.current := by
  cases h.blocks with
  | cons hhead _ => exact hhead

theorem outer : List.Forall₂ (OpenBlock.Covers loose) s.outer s'.outer := by
  cases h.blocks with
  | cons _ htail => exact htail

theorem head_eq {k : BlockKind} {φ : List BlockKind} (hkinds : kinds = k :: φ) :
    s.current.kind = k := by
  rw [hkinds] at h
  exact (List.cons.inj h.kinds_eq).1

/-- The same change is made to the innermost block of both. -/
theorem change {f g : OpenBlock → OpenBlock}
    (hf : ∀ b c, OpenBlock.Covers loose b c → OpenBlock.Covers loose (f b) (g c))
    (hkind : ∀ b, (f b).kind = b.kind) :
    Beside loose kinds { s with current := f s.current } { s' with current := g s'.current } where
  className_eq := h.className_eq
  blocks := .cons (hf _ _ h.current) h.outer
  kinds_eq := by
    rw [← h.kinds_eq]
    simp [Scope.blocks, hkind]

/-- The same name is noted in the same block of both. -/
theorem put {n : Nat} {b c : OpenBlock} (hb : (Scope.blocks s)[n]? = some b)
    (hbc : OpenBlock.Covers loose b c) {name : String} {u v : Uses}
    (huv : Uses.Covers loose u v) :
    Beside loose kinds (s.set n (b.put name u)) (s'.set n (c.put name v)) where
  className_eq := by rw [className_set, className_set, h.className_eq]
  blocks := by
    rw [blocks_set, blocks_set]
    exact forall₂_set h.blocks n (hbc.put huv)
  kinds_eq := by
    rw [blocks_set, map_set_of_eq hb (OpenBlock.kind_put _ _ _), h.kinds_eq]

end Beside

/-! ## Steps -/

/-- Two readings agree: the first one covers the second one, before and after. -/
abbrev Alike (loose : Prop) (kinds kinds' : List BlockKind) (x y : Reader Unit) : Prop :=
  Agree loose (Beside loose kinds) (Beside loose kinds') (fun _ _ => True) x y

section

variable {loose : Prop} {φ χ ψ : List BlockKind} {k : BlockKind}

theorem alike_done : Alike loose φ φ (return ()) (return ()) := agree_pure trivial

theorem alike_refuse (span span' : Span) (fault fault' : Fault) :
    Alike loose φ χ (refuse span fault) (refuse span' fault') := agree_throw _ _

theorem Alike.seq {x y x' y' : Reader Unit} (hx : Alike loose φ χ x y)
    (hx' : Alike loose χ ψ x' y') : Alike loose φ ψ (do x; x') (do y; y') :=
  Agree.bind hx fun _ _ _ => hx'

/-- Both look at what has been read so far. -/
theorem alike_get {f g : State → Reader Unit}
    (h : ∀ s s', Beside loose φ s s' → Alike loose φ χ (f s) (g s')) :
    Alike loose φ χ (do let s ← get; f s) (do let s ← get; g s) :=
  Agree.bind agree_get h

theorem alike_unless {c : Prop} [Decidable c] {x y : Reader Unit} {span span' : Span}
    {fault : Fault} (h : Alike loose φ χ x y) :
    Alike loose φ χ (if c then do refuse span fault; x else x)
      (if c then do refuse span' fault; y else y) :=
  Agree.unless id Or.inl h

theorem alike_noteIn (n : Nat) (name : String) {uses uses' : Uses}
    (huses : Uses.Covers loose uses uses') (span span' : Span) :
    Alike loose φ φ (noteIn n name uses span) (noteIn n name uses' span') := by
  unfold noteIn
  refine alike_get fun s s' h => ?_
  rcases forall₂_getElem? h.blocks n with ⟨hnone, hnone'⟩ | ⟨b, c, hb, hc, hbc⟩
  · rw [hnone, hnone']
    exact alike_done
  rw [hb, hc, h.className_eq]
  have hbefore : Uses.Covers loose (b.uses (privateName s.className name))
      (c.uses (privateName s.className name)) := hbc.names.uses _
  have hafter := hbefore.union huses
  have hparameter := congrArg₂ and huses.1.isParameter hbefore.1.isParameter
  have hdeclared := congrArg (b.inTarget && ·) (congrArg₂ or hafter.1.isGlobal hafter.1.isNonlocal)
  dsimp only
  rw [hbc.inTarget, huses.1.isGlobal]
  refine Agree.unless hparameter.symm.trans (fun hc => .inl (hparameter.trans hc))
    (Agree.unless hdeclared.symm.trans (fun hc => .inl (hdeclared.trans hc)) ?_)
  refine Alike.seq (agree_set (h.put hb hbc ?_)) (Agree.ite (fun _ => ?_) fun _ => alike_done)
  · split
    · exact hafter.iterated
    · exact hafter
  -- a global name is noted in the module as well
  refine agree_modify fun s s' h => ?_
  rw [← h.blocks.length_eq]
  rcases forall₂_getElem? h.blocks ((blocks s).length - 1) with
    ⟨hnone, hnone'⟩ | ⟨m, m', hm, hm', hmm⟩
  · rw [hnone, hnone']
    exact h
  · rw [hm, hm']
    exact h.put hm hmm ((hmm.names.uses _).union huses)

theorem alike_note (name : String) {uses uses' : Uses} (huses : Uses.Covers loose uses uses')
    (span span' : Span) : Alike loose φ φ (note name uses span) (note name uses' span') :=
  alike_noteIn 0 name huses span span'

theorem alike_declare (name : String) (span span' : Span) :
    Alike loose φ φ (declare name span) (declare name span') :=
  agree_modify fun s s' h => h.change
    (f := fun b => { b with declared := b.declared ++ [(privateName s.className name, span)] })
    (g := fun c => { c with declared := c.declared ++ [(privateName s'.className name, span')] })
    (fun _ _ hbc => hbc.declare _ _) fun _ => rfl

theorem alike_declareAll (span span' : Span) (word : String) (uses : Uses) (names : List String) :
    Alike loose φ φ (declareAll span word uses names) (declareAll span' word uses names) := by
  induction names with
  | nil => exact alike_done
  | cons name names ih =>
      unfold declareAll
      refine alike_get fun s s' h => ?_
      rw [h.className_eq]
      have hbefore := h.current.names.uses (privateName s.className name)
      change Uses.Covers loose (s.current.uses _) (s'.current.uses _) at hbefore
      simp only [hbefore.1.isParameter]
      refine alike_unless (Agree.unless hbefore.1.isRead (fun hread => ?_)
        (Agree.unless hbefore.1.isAnnotated (fun hannotated => ?_)
          (Agree.unless hbefore.1.isBound (fun hbound => ?_) ?_)))
      · exact hbefore.2.imp_left fun hmore => hmore.isRead hread
      · exact hbefore.2.imp_left fun hmore => hmore.isAnnotated hannotated
      · exact hbefore.2.imp_left fun hmore => hmore.isBound hbound
      · exact (alike_note name (.refl uses) _ _).seq ((alike_declare _ _ _).seq ih)

theorem alike_openBlock (kind : BlockKind) :
    Alike loose φ (kind :: φ) (openBlock kind) (openBlock kind) :=
  agree_modify fun s s' h =>
    ⟨h.className_eq, .cons (by rw [h.current.iterables]; exact .fresh kind _) h.blocks,
      congrArg (kind :: ·) h.kinds_eq⟩

theorem alike_closeBlock (kind : BlockKind) :
    Alike loose (kind :: k :: φ) (k :: φ) closeBlock closeBlock := by
  refine agree_modify fun s s' h => ?_
  have houter := h.outer
  have hcurrent := h.current
  have hkinds := (List.cons.inj h.kinds_eq).2
  cases hs : s.outer with
  | nil => rw [hs] at hkinds; cases hkinds
  | cons around outer =>
      rw [hs] at houter hkinds
      cases hs' : s'.outer with
      | nil => rw [hs'] at houter; cases houter
      | cons around' outer' =>
          rw [hs'] at houter
          cases houter with
          | cons hhead htail =>
              simp only [hcurrent.kind]
              refine ⟨h.className_eq, .cons ?_ htail, ?_⟩
              · split
                · exact hhead
                · exact hhead.around hcurrent
              · rw [← hkinds]
                simp only [blocks, List.map_cons]
                split <;> rfl

theorem alike_bindOutside (name : String) (span span' : Span) (n : Nat) {bs cs : List OpenBlock}
    (h : List.Forall₂ (OpenBlock.Covers loose) bs cs) :
    Alike loose φ φ (bindOutside name span n bs) (bindOutside name span' n cs) := by
  induction h generalizing n with
  | nil => exact alike_done
  | @cons b c bs cs hbc _ ih =>
      unfold bindOutside
      refine alike_get fun s s' hs => ?_
      rw [hs.className_eq, hbc.kind]
      have huses := hbc.names.uses (privateName s.className name)
      change Uses.Covers loose (b.uses _) (c.uses _) at huses
      cases b.kind with
      | comprehension _ =>
          exact Agree.unless huses.1.isIterated
            (fun hiterated => huses.2.imp_left fun hmore => hmore.isIterated hiterated) (ih _)
      | function =>
          simp only [huses.1.isGlobal]
          have hdeclare : Alike loose φ φ (declare name span) (declare name span') :=
            alike_declare name span span'
          have hrest := hdeclare.seq (alike_noteIn n name (.refl { isBound := true }) span span')
          exact Agree.ite (fun _ => (alike_note name (.refl _) _ _).seq hrest) fun _ =>
            (alike_note name (.refl _) _ _).seq hrest
      | module =>
          exact (alike_note name (.refl _) _ _).seq
            ((alike_declare _ _ _).seq (alike_noteIn _ _ (.refl _) _ _))
      | classBody => exact alike_refuse _ _ _ _
      | hint => exact ih _

theorem alike_notInHint (what : String) (span span' : Span) :
    Alike loose φ φ (notInHint what span) (notInHint what span') :=
  alike_get fun s s' h => by
    rw [h.current.kind]
    exact Agree.ite (fun _ => alike_refuse _ _ _ _) fun _ => alike_done

theorem alike_notInComprehension (what : String) (span span' : Span) :
    Alike loose φ φ (notInComprehension what span) (notInComprehension what span') := by
  refine alike_get fun s s' h => ?_
  rw [h.current.kind]
  cases s.current.kind with
  | comprehension title => exact alike_refuse _ _ _ _
  | _ => exact alike_done

theorem alike_bindOptional (name : Option String) (span span' : Span) :
    Alike loose φ φ (bindOptional name span) (bindOptional name span') := by
  cases name with
  | none => exact alike_done
  | some n => exact alike_note n (.refl _) _ _

/-- The same change is made to the innermost block of both. -/
theorem alike_change (f : OpenBlock → OpenBlock)
    (hf : ∀ b c, OpenBlock.Covers loose b c → OpenBlock.Covers loose (f b) (f c))
    (hkind : ∀ b, (f b).kind = b.kind) :
    Alike loose φ φ (modify fun s => { s with current := f s.current })
      (modify fun s => { s with current := f s.current }) :=
  agree_modify fun _ _ h => h.change hf hkind

section

variable {r r' : Reader Unit}

theorem Alike.iterable (h : Alike loose φ φ r r') :
    Alike loose φ φ (iterable r) (Scope.iterable r') := by
  refine Alike.seq (alike_change (fun b => { b with iterables := b.iterables + 1 }) ?_ fun _ => rfl)
    (h.seq (alike_change (fun b => { b with iterables := b.iterables - 1 }) ?_ fun _ => rfl))
  · exact fun b c hbc => { hbc with iterables := congrArg (· + 1) hbc.iterables }
  · exact fun b c hbc => { hbc with iterables := congrArg (· - 1) hbc.iterables }

theorem Alike.target (h : Alike loose φ φ r r') :
    Alike loose φ φ (target r) (Scope.target r') := by
  refine Alike.seq (alike_change (fun b => { b with inTarget := true }) ?_ fun _ => rfl)
    (h.seq (alike_change (fun b => { b with inTarget := false }) ?_ fun _ => rfl))
  · exact fun b c hbc => { hbc with inTarget := rfl }
  · exact fun b c hbc => { hbc with inTarget := rfl }

theorem Alike.hint (h : ∀ k' φ', Alike loose (k' :: φ') (k' :: φ') r r') (postponed : Bool) :
    Alike loose (k :: φ) (k :: φ) (hint postponed r) (Scope.hint postponed r') :=
  Agree.ite (fun _ => (alike_openBlock _).seq ((h _ _).seq (alike_closeBlock _))) fun _ => h _ _

end

/-- The name of a class is in force in its body. -/
theorem alike_inClass (name name' : Option String) (hname : name' = name) :
    Alike loose φ φ (modify fun s => { s with className := name })
      (modify fun s => { s with className := name' }) :=
  agree_modify fun _ _ h => ⟨hname, h.blocks, h.kinds_eq⟩

end

/-! ## Trees -/

section

variable {loose : Prop} {p : Kind → Option Span → Option Span}

theorem alike_parameters {φ : List BlockKind} (ts : List Tree) :
    Alike loose φ φ (parameters ts) (parameters (ts.map (moved p))) := by
  fun_induction parameters ts
  case case1 ih =>
    rw [List.map_cons, moved_node, parameters]
    exact (alike_note _ (.refl _) _ _).seq ih
  case case2 =>
    rw [parameters]
    · exact alike_done
    intros
    simp_all [List.map_eq_cons_iff]

/-- Two readings agree in every block, and leave the blocks around them open. -/
abbrev Level (loose : Prop) (x y : Reader Unit) : Prop :=
  ∀ k φ, Alike loose (k :: φ) (k :: φ) x y

theorem tree_alike_all (future : Bool) :
    (∀ t, Level loose (tree future t) (tree future (t.moved p)))
    ∧ (∀ fs, Level loose (fields future fs) (fields future (fs.map (List.map (moved p)))))
    ∧ (∀ ts, Level loose (trees future ts) (trees future (ts.map (moved p))))
    ∧ (∀ ts, Level loose (clauses future ts) (clauses future (ts.map (moved p))))
    ∧ (∀ ts, Level loose (optionalHint future ts) (optionalHint future (ts.map (moved p))))
    ∧ ∀ ts, Level loose (hints future ts) (hints future (ts.map (moved p))) := by
  apply tree.mutual_induct
    (fun t => Level loose (tree future t) (tree future (t.moved p)))
    (fun fs => Level loose (fields future fs) (fields future (fs.map (List.map (moved p)))))
    (fun ts => Level loose (trees future ts) (trees future (ts.map (moved p))))
    (fun ts => Level loose (clauses future ts) (clauses future (ts.map (moved p))))
    (fun ts => Level loose (optionalHint future ts) (optionalHint future (ts.map (moved p))))
    (fun ts => Level loose (hints future ts) (hints future (ts.map (moved p))))
  all_goals intros
  all_goals try simp only [moved_node, List.map_cons, List.map_nil, tree, fields, trees,
    clauses, optionalHint, hints]
  all_goals intro k φ
  case case1 ihd ihk iho ihp ihr ihm ihn ihresult ihdec ihb =>
    refine (alike_note _ (.refl _) _ _).seq ((ihd k φ).seq ((ihk k φ).seq (Alike.seq
      (Alike.hint (fun k φ => ?_) _) ((ihresult k φ).seq ((ihdec k φ).seq
        ((alike_openBlock _).seq ?_))))))
    · exact (iho k φ).seq ((ihp k φ).seq ((ihr k φ).seq ((ihm k φ).seq (ihn k φ))))
    · exact (alike_parameters _).seq ((alike_parameters _).seq ((alike_parameters _).seq
        ((alike_parameters _).seq ((alike_parameters _).seq
          ((ihb _ _).seq (alike_closeBlock _))))))
  case case2 name _ _ _ _ _ ihb ihk ihd ihbody =>
    refine (alike_note _ (.refl _) _ _).seq ((ihb k φ).seq ((ihk k φ).seq ((ihd k φ).seq
      ((alike_openBlock _).seq (alike_get fun s s' h => ?_)))))
    exact (alike_inClass _ _ rfl).seq ((ihbody _ _).seq
      ((alike_inClass _ _ h.className_eq).seq (alike_closeBlock _)))
  case case3 ihd ihk ihb =>
    exact (ihd k φ).seq ((ihk k φ).seq ((alike_openBlock _).seq ((alike_parameters _).seq
      ((alike_parameters _).seq ((alike_parameters _).seq ((alike_parameters _).seq
        ((alike_parameters _).seq ((ihb _ _).seq (alike_closeBlock _)))))))))
  case case4 ihb iho ihh ihf =>
    exact (ihb k φ).seq ((iho k φ).seq ((ihh k φ).seq (ihf k φ)))
  case case5 id _ _ _ _ _ ihh ihv =>
    have hrest := (Alike.hint ihh future).seq (ihv k φ)
    rw [List.isEmpty_map]
    refine alike_get fun s s' h => ?_
    have huses : Uses.Covers loose (s.current.uses (privateName s.className id))
        (s'.current.uses (privateName s.className id)) := h.current.names.uses _
    rw [h.className_eq, h.current.kind, huses.1.isGlobal, huses.1.isNonlocal]
    exact alike_unless (Agree.ite (fun _ => (alike_note _ (.refl _) _ _).seq hrest)
      fun _ => Agree.ite (fun _ => (alike_note _ (.refl _) _ _).seq hrest) fun _ => hrest)
  case case7 | case8 => exact alike_declareAll _ _ _ _ _
  case case9 | case10 =>
    refine Agree.ite (fun _ => alike_get fun s s' h => ?_) fun _ => alike_note _ (.refl _) _ _
    rw [h.current.kind]
    exact Agree.ite (fun _ => alike_refuse _ _ _ _) fun _ => alike_done
  case case11 iht ihb => exact (iht k φ).seq ((alike_bindOptional _ _ _).seq (ihb k φ))
  case case12 | case13 =>
    exact Agree.ite (fun _ => alike_note _ (.refl _) _ _) fun _ => alike_note _ (.refl _) _ _
  case case14 id usage ns fs value ihv ihn =>
    simp only [moved_node, tree] at ihn
    have hrest := (ihv k φ).seq (ihn k φ)
    refine (alike_notInHint _ _ _).seq (alike_get fun s s' h => ?_)
    rw [h.current.kind, h.current.iterables]
    refine alike_unless ?_
    cases s.current.kind with
    | comprehension _ => exact (alike_bindOutside _ _ _ _ h.blocks).seq hrest
    | _ => exact hrest
  case case15 | case16 =>
    rename_i ih
    exact (alike_notInHint _ _ _).seq ((ih k φ).seq (alike_notInComprehension _ _ _))
  case case17 ih => exact (alike_notInHint _ _ _).seq (ih k φ)
  case case18 | case19 | case20 =>
    rename_i ihs iht ihc ihm ihe
    exact (ihs k φ).iterable.seq ((alike_openBlock _).seq ((iht _ _).target.seq ((ihc _ _).seq
      ((ihm _ _).seq ((ihe _ _).seq (alike_closeBlock _))))))
  case case21 ihs iht ihc ihm ihv ihk =>
    exact (ihs k φ).iterable.seq ((alike_openBlock _).seq ((iht _ _).target.seq ((ihc _ _).seq
      ((ihm _ _).seq ((ihv _ _).seq ((ihk _ _).seq (alike_closeBlock _)))))))
  case case22 => exact alike_bindOptional _ _ _
  case case23 ih => exact (ih k φ).seq (alike_bindOptional _ _ _)
  case case24 ihk ihp => exact (ihk k φ).seq ((ihp k φ).seq (alike_bindOptional _ _ _))
  case case26 | case28 => exact alike_done
  case case27 | case29 | case34 =>
    rename_i ih ih'
    exact (ih k φ).seq (ih' k φ)
  case case30 iht ihs ihc ihm =>
    exact (iht k φ).target.seq ((ihs k φ).iterable.seq ((ihc k φ).seq (ihm k φ)))
  case case32 ih => exact Alike.hint ih future
  -- the branches for all other shapes
  case case6 iht ihh ihv =>
    rw [tree]
    · exact (iht k φ).seq ((Alike.hint ihh future).seq (ihv k φ))
    intros
    simp_all
  case case31 =>
    rw [clauses]
    · exact alike_done
    intros
    simp_all [List.map_eq_cons_iff, -Bool.forall_bool]
  case case33 =>
    rw [optionalHint]
    · exact alike_done
    intros
    simp_all [List.map_eq_cons_iff]
  case case35 =>
    rw [hints]
    · exact alike_done
    intros
    simp_all [List.map_eq_cons_iff]
  case case25 ih =>
    rw [tree]
    · exact ih k φ
    all_goals
      intros
      subst_vars
      simp only [reduceCtorEq, false_implies, implies_true] at *
      simp_all [List.map_eq_cons_iff, -Bool.forall_bool]

end

/-! ## Modules -/

theorem checkModule_ok_iff {future : Future} {t : Tree} : checkModule future t = .ok () ↔
    ∃ s, tree future.postponesHints t { current := { kind := .module } } = .ok ((), s)
      ∧ check none s.current.close = .ok () := by
  unfold checkModule
  change (tree future.postponesHints t { current := { kind := .module } }).bind _ = _ ↔ _
  cases tree future.postponesHints t { current := { kind := .module } } with
  | error e => simp [Except.bind]
  | ok r =>
      obtain ⟨⟨⟩, s⟩ := r
      simp [Except.bind]

theorem beside_init (loose : Prop) :
    Beside loose [.module] { current := { kind := .module } } { current := { kind := .module } } :=
  ⟨rfl, .cons (.fresh .module 0) .nil, rfl⟩

/-- What is read of a module that is covered by a sound one is sound. -/
theorem checkModule_ok {loose : Prop} {future future' : Future} {t t' : Tree}
    (hread : Alike loose [.module] [.module] (tree future.postponesHints t)
      (tree future'.postponesHints t'))
    (h : checkModule future t = .ok ()) : checkModule future' t' = .ok () := by
  obtain ⟨s, hs, hcheck⟩ := checkModule_ok_iff.mp h
  have houtcomes := hread _ _ (beside_init loose)
  rw [hs] at houtcomes
  obtain ⟨⟨_, s'⟩, hs', -, hbeside⟩ := houtcomes.ok
  refine checkModule_ok_iff.mpr ⟨s', hs', ?_⟩
  exact hbeside.current.close.check (List.Subset.refl _) hcheck

/-- Agreement goes both ways if neither reading is loose. -/
theorem Alike.symm {φ χ : List BlockKind} {x y : Reader Unit} (h : Alike False φ χ x y) :
    Alike False φ χ y x := by
  intro s s' hs
  have houtcomes := h s' s hs.symm
  cases hx : x s' with
  | ok a =>
      rw [hx] at houtcomes
      obtain ⟨b, hb, -, hbeside⟩ := houtcomes.ok
      rw [hb]
      exact ⟨trivial, hbeside.symm⟩
  | error e =>
      cases hy : y s with
      | ok b => rw [hx, hy] at houtcomes; exact houtcomes.elim
      | error e' => trivial

/-- Whether the names of a module are sound does not go by places. -/
theorem checkModule_eraseSpans {future future' : Future}
    (h : future'.postponesHints = future.postponesHints) (t : Tree) :
    (checkModule future' t.eraseSpans).toOption = (checkModule future t).toOption := by
  have hread : Alike False [.module] [.module] (tree future.postponesHints t)
      (tree future'.postponesHints t.eraseSpans) := by
    rw [h, ← Tree.moved_none]
    exact (tree_alike_all future.postponesHints).1 t .module []
  have hiff : checkModule future' t.eraseSpans = .ok () ↔ checkModule future t = .ok () :=
    ⟨checkModule_ok hread.symm, checkModule_ok hread⟩
  cases hmodule : checkModule future t with
  | ok _ => rw [hiff.mpr hmodule]
  | error e =>
      cases hmodule' : checkModule future' t.eraseSpans with
      | ok _ => rw [hiff.mp hmodule'] at hmodule; cases hmodule
      | error e' => rfl

end Scope

end SourceLoader
