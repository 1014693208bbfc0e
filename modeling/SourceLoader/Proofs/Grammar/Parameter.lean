import SourceLoader.Proofs.Grammar.Operator
import SourceLoader.Syntax.Grammar.Parameter

/-!
# Parameters
-/

namespace SourceLoader.Grammar

open Parser
open Tree (On AllOn SomeOn)

variable {n : Nat} {g : Rules} {sig : Signature}

/-- The parts of a parameter fit. -/
structure Parameter.Sound (n : Nat) (p : Parameter) : Prop where
  arg : On n .parameter p.arg
  default? : ∀ t ∈ p.default?, On n .expression t

/-- The parts of what follows the positional parameters fit. -/
structure Tail.Sound (n : Nat) (t : Tail) : Prop where
  rest : ∀ u ∈ t.rest, On n .parameter u
  keywordOnly : ∀ p ∈ t.keywordOnly, p.Sound n
  mapping : ∀ u ∈ t.mapping, On n .parameter u

theorem Tail.none_sound : Tail.Sound n {} := ⟨by simp, by simp, by simp⟩

/-! ## Single parameters -/

theorem closing_keeps (sig : Signature) : sig.closing.Keeps n := by
  cases sig with
  | function => exact .punct _
  | lambda => exact .punct _

theorem parameter_gives (hg : g.Sound n) : (parameter g sig).Gives n (On n .parameter) := by
  refine .located (.skip .identifier fun name => ?_)
  cases sig with
  | lambda => exact .ret ⟨rfl, rfl, trivial, trivial⟩
  | function =>
      exact Gives.bind (.opt (.skip (.punct _) fun _ => hg.one .expression)) fun hint hhint =>
        .ret ⟨rfl, rfl, Slot.filledOn_toList hhint, trivial⟩

theorem starAnnotated_gives (hg : g.Sound n) : (starAnnotated g).Gives n (On n .parameter) :=
  .located (.skip .identifier fun _ => .skip (.punct _) fun _ =>
    (hg.one .starExpression).bind fun _ hhint => .ret ⟨rfl, rfl, hhint, trivial⟩)

theorem behindParameter_keeps (sig : Signature) : (behindParameter sig).Keeps n :=
  Gives.firstOf (.or (Gives.skip (.punct _) fun _ => Keeps.ignore .peek)
    (.or (Keeps.look (closing_keeps sig)) .none_left))

theorem defaultValue_gives (hg : g.Sound n) : (defaultValue g).Gives n (On n .expression) :=
  .firstOf (.or (.skip (.punct _) fun _ => hg.one .expression) (.or (.diagnose _) .none_left))

theorem plain_gives (hg : g.Sound n) : (plain g sig).Gives n (On n .parameter) :=
  (parameter_gives hg).bind fun _ hp => .skip (behindParameter_keeps sig) fun _ => .ret hp

theorem defaulted_gives (hg : g.Sound n) : (defaulted g sig).Gives n (Parameter.Sound n) := by
  refine (parameter_gives hg).bind fun p hp => (defaultValue_gives hg).bind fun d hd => ?_
  exact .skip (behindParameter_keeps sig) fun _ => .ret ⟨hp, fun t ht => by cases ht; exact hd⟩

theorem maybeDefaulted_gives (hg : g.Sound n) :
    (maybeDefaulted g sig).Gives n (Parameter.Sound n) := by
  refine (parameter_gives hg).bind fun p hp => ?_
  exact (Gives.opt (defaultValue_gives hg)).bind fun d hd =>
    .skip (behindParameter_keeps sig) fun _ => .ret ⟨hp, hd⟩

theorem slash_keeps (sig : Signature) : (slash sig).Keeps n :=
  Gives.skip (.punct _) fun _ => Gives.firstOf (.or (Keeps.ignore (.punct _))
    (.or (Keeps.look (closing_keeps sig)) .none_left))

theorem slashPlain_gives (hg : g.Sound n) : (slashPlain g sig).Gives n (SomeOn n .parameter) :=
  Gives.bind (.many1 (plain_gives hg)) fun _ hps => .skip (slash_keeps sig) fun _ => .ret hps

theorem slashDefaulted_gives (hg : g.Sound n) :
    (slashDefaulted g sig).Gives n fun r => AllOn n .parameter r.1 ∧ ∀ p ∈ r.2, p.Sound n :=
  Gives.bind (.many (plain_gives hg)) fun _ hps => Gives.bind (.many1 (defaulted_gives hg))
    fun _ hds => .skip (slash_keeps sig) fun _ => .ret ⟨hps, hds.2⟩

/-! ## Starred parameters -/

theorem mappingParameter_gives (hg : g.Sound n) :
    (mappingParameter g sig).Gives n (On n .parameter) :=
  .firstOf (.or (.diagnose _) (.or (.skip (.punct _) fun _ => plain_gives hg) .none_left))

/-- Keyword-only parameters and the mapping behind a starred parameter. -/
theorem behindStar_gives (hg : g.Sound n) {rest : Option Tree}
    (hrest : ∀ t ∈ rest, On n .parameter t)
    {named : List Parameter} (hnamed : ∀ p ∈ named, p.Sound n) :
    Gives n (do
      let mapping ← opt (mappingParameter g sig)
      return (⟨rest, named, mapping⟩ : Tail)) (Tail.Sound n) :=
  (Gives.opt (mappingParameter_gives hg)).bind fun _ hmapping => .ret ⟨hrest, hnamed, hmapping⟩

theorem tail_gives (hg : g.Sound n) : (tail g sig).Gives n (Tail.Sound n) := by
  have hrest {t : Tree} (ht : On n .parameter t) : ∀ u ∈ some t, On n .parameter u :=
    fun u hu => by cases hu; exact ht
  refine .firstOf (.or (.diagnose _) (.or ?_ (.or ?_ (.or ?_ (.or ?_ .none_left)))))
  · exact .skip (.punct _) fun _ => (plain_gives hg).bind fun rest h =>
      Gives.bind (.many (maybeDefaulted_gives hg)) fun _ hnamed =>
        behindStar_gives hg (hrest h) hnamed
  · cases sig with
    | lambda => exact .fail
    | function =>
        exact .skip (.punct _) fun _ => (starAnnotated_gives hg).bind fun rest h =>
          .skip (behindParameter_keeps _) fun _ =>
            Gives.bind (.many (maybeDefaulted_gives hg)) fun _ hnamed =>
              behindStar_gives hg (hrest h) hnamed
  · exact .skip (.punct _) fun _ => .skip (.punct _) fun _ =>
      Gives.bind (.many1 (maybeDefaulted_gives hg)) fun _ hnamed =>
        behindStar_gives hg (by simp) hnamed.2
  · exact (mappingParameter_gives hg).bind fun mapping h => .ret ⟨by simp, by simp, hrest h⟩

/-! ## All parameters -/

theorem argsOf_on {ps : List Parameter} (h : ∀ p ∈ ps, p.Sound n) :
    AllOn n .parameter (argsOf ps) := by
  intro t ht
  obtain ⟨p, hp, rfl⟩ := List.mem_map.mp ht
  exact (h p hp).arg

theorem defaultsOf_on {ps : List Parameter} (h : ∀ p ∈ ps, p.Sound n) :
    AllOn n .expression (defaultsOf ps) := by
  intro t ht
  obtain ⟨p, hp, hdefault⟩ := List.mem_filterMap.mp ht
  exact (h p hp).default? t hdefault

theorem parameterTree_on {only positional defaults : List Tree} {t : Option Tail}
    (honly : AllOn n .parameter only) (hpositional : AllOn n .parameter positional)
    (hdefaults : AllOn n .expression defaults) (ht : ∀ u ∈ t, u.Sound n) :
    On n .arguments (parameterTree only positional defaults t) := by
  have htail : (t.getD {}).Sound n := by
    cases t with
    | none => exact Tail.none_sound
    | some u => exact ht u rfl
  refine .node rfl rfl rfl rfl ⟨honly, hpositional, Slot.filledOn_toList htail.rest,
    argsOf_on htail.keywordOnly, fun u hu => ?_, Slot.filledOn_toList htail.mapping, hdefaults,
    trivial⟩
  obtain ⟨p, hp, rfl⟩ := List.mem_map.mp hu
  cases hdefault : p.default? with
  | none => exact .inr Tree.missing_on
  | some d => exact .inl ((htail.keywordOnly p hp).default? d hdefault)

theorem validParameters_gives (hg : g.Sound n) :
    (validParameters g sig).Gives n (On n .arguments) := by
  have hplain : (plain g sig).Gives n (On n .parameter) := plain_gives hg
  have hdefaulted : (defaulted g sig).Gives n (Parameter.Sound n) := defaulted_gives hg
  have htail : (opt (tail g sig)).Gives n fun t => ∀ u ∈ t, u.Sound n := .opt (tail_gives hg)
  refine .firstOf (.or ?_ (.or ?_ (.or ?_ (.or ?_ (.or ?_ .none_left)))))
  · exact (slashPlain_gives hg).bind fun only honly => hplain.many.bind fun ps hps =>
      hdefaulted.many.bind fun ds hds => htail.bind fun t ht =>
        .ret (parameterTree_on honly.all (.append hps (argsOf_on hds)) (defaultsOf_on hds) ht)
  · exact (slashDefaulted_gives hg).bind fun r hr => hdefaulted.many.bind fun ds hds =>
      htail.bind fun t ht => .ret (parameterTree_on (.append hr.1 (argsOf_on hr.2))
        (argsOf_on hds) (.append (defaultsOf_on hr.2) (defaultsOf_on hds)) ht)
  · exact hplain.many1.bind fun ps hps => hdefaulted.many.bind fun ds hds =>
      htail.bind fun t ht => .ret (parameterTree_on .nil
        (.append hps.2 (argsOf_on hds)) (defaultsOf_on hds) ht)
  · exact hdefaulted.many1.bind fun ds hds => htail.bind fun t ht =>
      .ret (parameterTree_on .nil (argsOf_on hds.2) (defaultsOf_on hds.2) ht)
  · exact (tail_gives hg).bind fun t ht =>
      .ret (parameterTree_on .nil .nil .nil fun u hu => by cases hu; exact ht)

theorem parameters_gives (hg : g.Sound n) (sig : Signature) :
    (parameters g sig).Gives n (On n .arguments) :=
  .firstOf (.or (.diagnose _) (.or (validParameters_gives hg) .none_left))

end SourceLoader.Grammar
