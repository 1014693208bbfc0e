import SourceLoader.Proofs.Marks.Operator
import SourceLoader.Syntax.Grammar.Parameter

/-!
# Parameters lie between marks

Parameters are listed by what they are, and their defaults behind all of them, wherever the sources
of both stand. So nothing is said about the order of the parts of a signature; only that all of them
lie between the marks of the whole.
-/

namespace SourceLoader.Grammar

open Parser Dependencies

variable {g : Rules} {sig : Signature} {v : Survey} {i i' j j' : ℕ}

/-- A parameter lies between two marks with its default. -/
structure Parameter.Between (v : Survey) (i j : ℕ) (p : Parameter) : Prop where
  arg : Laid v i j p.arg
  default? : ∀ t ∈ p.default?, Laid v i j t

/-- What follows the positional parameters lies between two marks. -/
structure Tail.Between (v : Survey) (i j : ℕ) (t : Tail) : Prop where
  rest : AllLaid v i j t.rest.toList
  keywordOnly : ∀ p ∈ t.keywordOnly, p.Between v i j
  mapping : AllLaid v i j t.mapping.toList

theorem Parameter.Between.mono {p : Parameter} (h : p.Between v i j) (hi : i' ≤ i) (hj : j ≤ j') :
    p.Between v i' j' := ⟨h.arg.mono hi hj, fun t ht => (h.default? t ht).mono hi hj⟩

theorem Tail.Between.mono {t : Tail} (h : t.Between v i j) (hi : i' ≤ i) (hj : j ≤ j') :
    t.Between v i' j' :=
  ⟨h.rest.mono hi hj, fun p hp => (h.keywordOnly p hp).mono hi hj, h.mapping.mono hi hj⟩

/-- Parameters in a row are all between the marks of the row. -/
theorem between_of_row {ps : List Parameter} (h : Row (Parameter.Between v) i j ps) :
    ∀ p ∈ ps, p.Between v i j := by
  intro p hp
  obtain ⟨i', j', hi, -, hj, hbetween⟩ := h.mem hp
  exact hbetween.mono hi hj

theorem argsOf_laid {ps : List Parameter} (h : ∀ p ∈ ps, p.Between v i j) :
    AllLaid v i j (argsOf ps) := by
  intro t ht
  obtain ⟨p, hp, rfl⟩ := List.mem_map.mp ht
  exact (h p hp).arg

theorem defaultsOf_laid {ps : List Parameter} (h : ∀ p ∈ ps, p.Between v i j) :
    AllLaid v i j (defaultsOf ps) := by
  intro t ht
  obtain ⟨p, hp, hdefault⟩ := List.mem_filterMap.mp ht
  exact (h p hp).default? t hdefault

/-! ## Single parameters -/

theorem closing_passes (sig : Signature) : sig.closing.Passes v i := by
  cases sig with
  | function => exact .punct _
  | lambda => exact .punct _

theorem parameter_reads (hg : g.Lays) : (parameter g sig).Reads v i (Laid v i) := by
  refine .located (.skip .identifier fun j name hj => ?_)
  cases sig with
  | lambda => exact .ret (.row rfl (.cons (Row.nil hj).whole .nil) (by omega))
  | function =>
      refine Reads.bind (.opt (.skip (.punct _) fun k _ hk => (hg.one .expression).lower hk))
        fun l hint hl hhint => ?_
      exact .ret (.row rfl (.cons (.toList hhint) .nil) (by omega))

theorem starAnnotated_reads (hg : g.Lays) : (starAnnotated g).Reads v i (Laid v i) :=
  .located (.skip .identifier fun _ _ hj => .skip (.punct _) fun _ _ hk =>
    (hg.one .starExpression).bind fun _ _ hl hhint =>
      .ret (.row rfl (.cons (.one hhint) .nil) (by omega)))

theorem behindParameter_passes (sig : Signature) : (behindParameter sig).Passes v i :=
  Reads.firstOf (.or (Reads.skip (.punct _) fun _ _ _ =>
      Reads.peek fun _ _ => Reads.seen (.ret trivial))
    (.or (Passes.look (closing_passes sig)) .none_left))

theorem defaultValue_reads (hg : g.Lays) : (defaultValue g).Reads v i (Laid v i) :=
  .firstOf (.or (.skip (.punct _) fun _ _ hj => (hg.one .expression).lower hj)
    (.or (.diagnose _) .none_left))

theorem plain_reads (hg : g.Lays) (i : ℕ) : (plain g sig).Reads v i (Laid v i) :=
  (parameter_reads hg).bind fun _ _ _ hp => .skip (behindParameter_passes sig) fun _ _ hk =>
    .ret (hp.mono le_rfl hk)

theorem defaulted_reads (hg : g.Lays) (i : ℕ) :
    (defaulted g sig).Reads v i (Parameter.Between v i) := by
  refine (parameter_reads hg).bind fun j p hj hp => (defaultValue_reads hg).bind fun k d hk hd => ?_
  refine .skip (behindParameter_passes sig) fun l _ hl => .ret ⟨hp.mono le_rfl (by omega), ?_⟩
  intro t ht
  cases ht
  exact hd.mono hj hl

theorem maybeDefaulted_reads (hg : g.Lays) (i : ℕ) :
    (maybeDefaulted g sig).Reads v i (Parameter.Between v i) := by
  refine (parameter_reads hg).bind fun j p hj hp => ?_
  refine (Reads.opt (defaultValue_reads hg)).bind fun k d hk hd => ?_
  exact .skip (behindParameter_passes sig) fun l _ hl =>
    .ret ⟨hp.mono le_rfl (by omega), fun t ht => (hd t ht).mono hj hl⟩

theorem slash_passes (sig : Signature) : (slash sig).Passes v i :=
  Reads.skip (.punct _) fun _ _ _ => Reads.firstOf (.or (Passes.ignore (.punct _))
    (.or (Passes.look (closing_passes sig)) .none_left))

theorem slashPlain_reads (hg : g.Lays) : (slashPlain g sig).Reads v i (AllLaid v i) :=
  Reads.bind (.many1 (plain_reads hg)) fun _ _ _ hps => .skip (slash_passes sig) fun _ _ hk =>
    .ret (hps.mono le_rfl hk).laid

theorem slashDefaulted_reads (hg : g.Lays) : (slashDefaulted g sig).Reads v i fun j r =>
    AllLaid v i j r.1 ∧ ∀ p ∈ r.2, p.Between v i j := by
  refine Reads.bind (.many (plain_reads hg)) fun j ps hj hps => ?_
  refine Reads.bind (.many1 (defaulted_reads hg)) fun k ds hk hds => ?_
  exact .skip (slash_passes sig) fun l _ hl =>
    .ret ⟨hps.laid.mono le_rfl (hk.trans hl), between_of_row (hds.mono hj hl)⟩

/-! ## Starred parameters -/

theorem mappingParameter_reads (hg : g.Lays) : (mappingParameter g sig).Reads v i (Laid v i) :=
  .firstOf (.or (.diagnose _) (.or (.skip (.punct _) fun j _ hj => (plain_reads hg j).lower hj)
    .none_left))

/-- Keyword-only parameters and the mapping behind a starred parameter. -/
theorem behindStar_reads (hg : g.Lays) (hij : i ≤ j) {rest : Option Tree}
    (hrest : AllLaid v i j rest.toList) {named : Parser (List Parameter)}
    (hnamed : named.Reads v j (Row (Parameter.Between v) j)) :
    Parser.Reads (do
      let named ← named
      let mapping ← opt (mappingParameter g sig)
      return (⟨rest, named, mapping⟩ : Tail)) v j (Tail.Between v i) := by
  refine hnamed.bind fun k named hk hnamed => ?_
  refine (Reads.opt (mappingParameter_reads hg)).bind fun l mapping hl hmapping => ?_
  have hmapped : AllLaid v k l mapping.toList := (Row.toList hmapping hl).laid
  exact .ret ⟨hrest.mono le_rfl (hk.trans hl), between_of_row (hnamed.mono hij hl),
    hmapped.mono (hij.trans hk) le_rfl⟩

theorem tail_reads (hg : g.Lays) : (tail g sig).Reads v i (Tail.Between v i) := by
  have hone {j : ℕ} {t : Tree} (ht : Laid v i j t) : AllLaid v i j (some t).toList := by
    simpa [AllLaid] using ht
  refine .firstOf (.or (.diagnose _) (.or ?_ (.or ?_ (.or ?_ (.or ?_ .none_left)))))
  · exact .skip (.punct _) fun j _ hj => (plain_reads hg j).bind fun k rest hk hrest =>
      behindStar_reads hg (hj.trans hk) (hone (hrest.mono hj le_rfl))
        (.many (maybeDefaulted_reads hg))
  · cases sig with
    | lambda => exact .fail
    | function =>
        refine .skip (.punct _) fun j _ hj => (starAnnotated_reads hg).bind
          fun k rest hk hrest => ?_
        exact .skip (behindParameter_passes _) fun l _ hl =>
          behindStar_reads hg (by omega) (hone (hrest.mono hj hl)) (.many (maybeDefaulted_reads hg))
  · exact .skip (.punct _) fun j _ hj => .skip (.punct _) fun k _ hk =>
      behindStar_reads hg (hj.trans hk) (by simp [AllLaid]) (.many1 (maybeDefaulted_reads hg))
  · exact (mappingParameter_reads hg).bind fun _ mapping _ hmapping =>
      .ret ⟨by simp [AllLaid], by simp, hone hmapping⟩

/-! ## All parameters -/

theorem parameterTree_laid {only positional defaults : List Tree} {t : Option Tail}
    (honly : AllLaid v i j only) (hpositional : AllLaid v i j positional)
    (hdefaults : AllLaid v i j defaults) (ht : ∀ u ∈ t, u.Between v i j) :
    Laid v i j (parameterTree only positional defaults t) := by
  have htail : (t.getD {}).Between v i j := by
    cases t with
    | none => exact ⟨by simp [AllLaid], by simp, by simp [AllLaid]⟩
    | some u => exact ht u rfl
  have hkeywordDefaults : AllLaid v i j
      ((t.getD {}).keywordOnly.map fun p => p.default?.getD Tree.missing) := by
    intro u hu
    obtain ⟨p, hp, rfl⟩ := List.mem_map.mp hu
    cases hdefault : p.default? with
    | none => exact (missing_still v.imports).laid i j
    | some d => exact (htail.keywordOnly p hp).default? d hdefault
  have hparts := List.forall_mem_cons.mpr ⟨honly, List.forall_mem_cons.mpr ⟨hpositional,
    List.forall_mem_cons.mpr ⟨htail.rest, List.forall_mem_cons.mpr
      ⟨argsOf_laid htail.keywordOnly, List.forall_mem_cons.mpr ⟨hkeywordDefaults,
        List.forall_mem_cons.mpr ⟨htail.mapping, List.forall_mem_singleton.mpr hdefaults⟩⟩⟩⟩⟩⟩
  exact (Makes.reordered (k := .arguments) rfl rfl hparts).laid none

theorem validParameters_reads (hg : g.Lays) : (validParameters g sig).Reads v i (Laid v i) := by
  have hplain (i : ℕ) : (plain g sig).Reads v i (Laid v i) := plain_reads hg i
  have hdefaulted (i : ℕ) : (defaulted g sig).Reads v i (Parameter.Between v i) :=
    defaulted_reads hg i
  -- What is read last: the parameters with defaults, then the starred ones.
  have hend {j : ℕ} (hij : i ≤ j) {f : List Parameter → Option Tail → Tree}
      {ds : Parser (List Parameter)} (hds : ds.Reads v j (Row (Parameter.Between v) j))
      (hf : ∀ k ds t, j ≤ k → (∀ p ∈ ds, p.Between v i k) → (∀ u ∈ t, u.Between v i k) →
        Laid v i k (f ds t)) :
      Parser.Reads (do
        let ds ← ds
        let t ← opt (tail g sig)
        return f ds t) v j (Laid v i) := by
    refine hds.bind fun k ds hk hds => (Reads.opt (tail_reads hg)).bind fun l t hl ht => ?_
    exact .ret (hf l ds t (by omega) (between_of_row (hds.mono hij hl))
      fun u hu => (ht u hu).mono (by omega) le_rfl)
  refine .firstOf (.or ?_ (.or ?_ (.or ?_ (.or ?_ (.or ?_ .none_left)))))
  · refine (slashPlain_reads hg).bind fun j only hj honly =>
      (Reads.many hplain).bind fun k ps hk hps => ?_
    refine hend (hj.trans hk) (.many hdefaulted) fun l ds t hl hds ht => ?_
    exact parameterTree_laid (honly.mono le_rfl (hk.trans hl))
      ((hps.laid.mono hj hl).append (argsOf_laid hds))
      (defaultsOf_laid hds) ht
  · refine (slashDefaulted_reads hg).bind fun j r hj hr => ?_
    refine hend hj (.many hdefaulted) fun l ds t hl hds ht => ?_
    have hfirst : ∀ p ∈ r.2, p.Between v i l := fun p hp => (hr.2 p hp).mono le_rfl hl
    exact parameterTree_laid ((hr.1.mono le_rfl hl).append (argsOf_laid hfirst)) (argsOf_laid hds)
      ((defaultsOf_laid hfirst).append (defaultsOf_laid hds)) ht
  · refine (Reads.many1 hplain).bind fun j ps hj hps => ?_
    refine hend hj (.many hdefaulted) fun l ds t hl hds ht => ?_
    exact parameterTree_laid (by simp [AllLaid])
      ((hps.laid.mono le_rfl hl).append (argsOf_laid hds)) (defaultsOf_laid hds) ht
  · refine hend le_rfl (.many1 hdefaulted) fun l ds t hl hds ht => ?_
    exact parameterTree_laid (by simp [AllLaid]) (argsOf_laid hds) (defaultsOf_laid hds) ht
  · refine (tail_reads hg).bind fun j t _ ht => .ret ?_
    exact parameterTree_laid (by simp [AllLaid]) (by simp [AllLaid]) (by simp [AllLaid])
      fun u hu => by cases hu; exact ht

theorem parameters_reads (hg : g.Lays) (sig : Signature) :
    (parameters g sig).Reads v i (Laid v i) :=
  .firstOf (.or (.diagnose _) (.or (validParameters_reads hg) .none_left))

end SourceLoader.Grammar
