import SourceLoader.Proofs.Marks.Parsing
import SourceLoader.Syntax.Grammar.Strings

/-!
# Strings declare nothing

The expression of a replacement field is read from a source of its own, so that the marks in it are
none of the source around it. What it declares is therefore left out (`Plain`), but its nodes are in
order like any others.
-/

namespace SourceLoader.Grammar

open Parser Dependencies

variable {g : Rules} {v : Survey} {i j : ℕ} {b : Bool}

/-! ## Pieces -/

/-- A string declares nothing, and it is no name. -/
abbrev StillString (b : Bool) (t : Tree) : Prop :=
  Still b t ∧ ∀ id usage, t.kind ≠ .name id usage

/-- The finished pieces are arranged. -/
def Pieces.Arranged (b : Bool) (p : Pieces) : Prop := ∀ t ∈ p.done, Dependencies.Arranged b t

theorem Pieces.none_arranged : Pieces.Arranged b {} := by simp [Pieces.Arranged]

theorem textPiece_still (first last : Token) (t : Text) : StillString b (textPiece first last t) :=
  ⟨.node rfl (by simp) _, fun _ _ => nofun⟩

theorem Pieces.Arranged.flush {p : Pieces} (h : p.Arranged b) (first last : Token) :
    (p.flush first last).Arranged b := by
  unfold Pieces.flush
  split
  · exact h
  · exact List.forall_mem_cons.mpr ⟨(textPiece_still first last p.pending).1.arranged, h⟩

theorem Pieces.Arranged.finish {p : Pieces} (h : p.Arranged b) (first last : Token) :
    StillString b (p.finish first last) := by
  unfold Pieces.finish
  split
  · exact ⟨.joined (fun t ht => h.flush first last t (List.mem_reverse.mp ht)) _, fun _ _ => nofun⟩
  · exact textPiece_still first last p.pending

/-- A replacement field: its format is a string, which declares nothing. -/
theorem field_arranged {value : Tree} {format : List Tree} (converted : Option Char)
    (s : Option Span) (hvalue : Arranged b value) (hformat : ∀ t ∈ format, Still b t) :
    Arranged b (.node (.formattedValue converted) s [[value], format]) := by
  refine arranged_iff.mpr ⟨fun hplain _ => ?_, fun c hc => ?_⟩
  · have hbelow := (plain_iff.mp hplain).2
    have hsilent : ∀ t ∈ format, declarations b t = [] := fun t ht =>
      (hformat t ht).silent (hbelow t (by simp [Tree.children, Tree.fields, ht]))
    have hbehind (t u : Tree) (hu : u ∈ format) :
        NoLater (declarations b t) (declarations b u) := by simp [NoLater, hsilent u hu]
    refine List.pairwise_append.mpr ⟨List.pairwise_singleton _ _, ?_, fun t _ u hu => ?_⟩
    · refine List.pairwise_append.mpr ⟨?_, .nil, by simp⟩
      exact List.pairwise_iff_forall_sublist.mpr fun {t u} hsub => hbehind t u (hsub.subset (by simp))
    · exact hbehind t u (by simpa using hu)
  · rcases List.mem_cons.mp (show c ∈ value :: format by simpa [Tree.children, Tree.fields] using hc)
      with rfl | hc
    · exact hvalue
    · exact (hformat c hc).arranged

/-- A replacement field behind the pieces so far. -/
theorem Pieces.Arranged.addField {p : Pieces} (h : p.Arranged b) (first last : Token)
    (converted : Option Char) {value : Tree} {format : List Tree}
    (hvalue : Dependencies.Arranged b value) (hformat : ∀ t ∈ format, Still b t) :
    Pieces.Arranged b { p.flush first last with
      done := .node (.formattedValue converted) (some (spanOf first last)) [[value], format] ::
        (p.flush first last).done } :=
  List.forall_mem_cons.mpr ⟨field_arranged converted _ hvalue hformat, h.flush first last⟩

/-! ## Replacement fields -/

theorem resolve_passes (place : StringPlace) (cs : List Char) : (resolve place cs).Passes v i := by
  refine Reads.ite (fun _ => .ret trivial) fun _ => ?_
  split
  · exact .faultAtLast _
  · split
    · exact .skip (.warn _) fun _ _ _ => .ret trivial
    · exact .ret trivial

theorem fieldExpression_reads (hg : g.Lays) (place : StringPlace) (opening : Cursor)
    (text : List Char) (next : Char) : (fieldExpression g place opening text next).Reads v i
      fun _ => Arranged v.imports := by
  refine Reads.ite (fun _ => .faultAtLast _) fun _ => ?_
  rintro s hs rfl
  dsimp only
  split
  · next hread =>
    -- The inner source has tokens and marks of its own, but the same things count in it.
    obtain ⟨_, hinner⟩ := (hg.one (v := ⟨_, v.imports⟩) .fieldInput).read
      (ParseState.Aligned.first rfl rfl rfl rfl rfl rfl) rfl hread
    exact ⟨⟨hs.trusting, hs.mark, hs.lexer, hs.tokens, hs.ones, hs.manys⟩, le_rfl, hinner.arranged⟩
  · trivial

theorem conversion_passes (c : Cursor) : (conversion c).Passes v i := by
  unfold conversion
  split
  · exact Reads.ite (fun _ => .ret trivial) fun _ => .faultAtLast _
  · exact Reads.faultAtLast _
  · exact Reads.ret trivial

/-- **The pieces of a formatted literal are arranged.** The fuel goes down in each call. -/
theorem formattedPieces_reads (hg : g.Lays) (place : StringPlace) (fuel levels : Nat) (c : Cursor)
    {p : Pieces} (hp : p.Arranged v.imports) :
    (formattedPieces g place levels fuel c p).Reads v i fun _ r => r.1.Arranged v.imports := by
  induction fuel generalizing levels c p i with
  | zero => rw [formattedPieces]; exact .ret hp
  | succ fuel ih =>
      rw [formattedPieces]
      split
      · exact .faultAtLast _
      refine Reads.bind (.forIn (R := fun _ => True) trivial fun _ _ _ _ => .skip (.warn _)
        fun _ _ _ => .ret trivial) fun _ _ _ _ => ?_
      refine .join (P := fun _ _ => True) (fun _ text _ _ => ?_) fun k hk =>
        .ite (fun _ => hk _ _ le_rfl trivial) fun _ => .skip (resolve_passes _ _)
          fun l text hl => hk l text hl trivial
      refine .ite (fun _ => ih _ _ hp) fun _ => ?_
      split
      · split
        · exact .faultAtLast _
        split
        · exact .faultAtLast _
        refine .ite (fun _ => .faultAtLast _) fun _ => ?_
        split
        · exact .faultAtLast _
        split
        · exact .faultAtLast _
        refine (fieldExpression_reads hg _ _ _ _).bind fun _ value _ hvalue => ?_
        refine .ite (fun _ => .faultAtLast _) fun _ => .skip (conversion_passes _) fun _ r _ => ?_
        dsimp only
        split
        · exact Reads.bind (P := fun _ _ => False) (.faultAtLast _) fun _ _ _ h => h.elim
        · refine (ih _ _ (p := { isFormatted := true }) (by simp [Pieces.Arranged])).bind
            fun _ inner _ hinner => .ite (fun _ => ?_) fun _ =>
              Reads.bind (P := fun _ _ => False) (.faultAtLast _) fun _ _ _ h => h.elim
          refine Reads.bind (.ret (P := fun _ (r : List Tree × Cursor) =>
            ∀ t ∈ r.1, Still v.imports t) (by simpa using (hinner.finish _ _).1)) fun _ r _ hr => ?_
          split
          · exact ih _ _ (Pieces.Arranged.addField (by exact hp) _ _ _ hvalue hr)
          · exact .faultAtLast _
        · refine Reads.bind (.ret (P := fun _ (r : List Tree × Cursor) =>
            ∀ t ∈ r.1, Still v.imports t) (by simp)) fun _ r _ hr => ?_
          split
          · exact ih _ _ (Pieces.Arranged.addField (by exact hp) _ _ _ hvalue hr)
          · exact .faultAtLast _
      · exact .ret hp

/-! ## Literals in a row -/

theorem addLiteral_reads (hg : g.Lays) (first last : Token) {p : Pieces}
    (hp : p.Arranged v.imports) (t : Token) :
    (addLiteral g first last p t).Reads v i fun _ => Pieces.Arranged v.imports := by
  refine .ite (fun _ => ?_) fun _ => .skip (resolve_passes _ _) fun _ _ _ => .ret hp
  exact (formattedPieces_reads hg _ _ _ _ (by exact hp)).bind fun _ r _ hr =>
    .ite (fun _ => .ret hr) fun _ => .faultAtLast _

theorem addBytes_passes (value : List UInt8) (t : Token) : (addBytes value t).Passes v i := by
  refine Reads.ite (fun _ => .faultAtLast _) fun _ => .ite (fun _ => .ret trivial) fun _ => ?_
  split
  · exact .faultAtLast _
  · split
    · exact .skip (.warn _) fun _ _ _ => .ret trivial
    · exact .ret trivial

theorem addLiterals_reads (hg : g.Lays) (first last : Token) (ts : List Token) {p : Pieces}
    (hp : p.Arranged v.imports) :
    (addLiterals g first last ts p).Reads v i fun _ => Pieces.Arranged v.imports := by
  induction ts generalizing p i with
  | nil => exact .ret hp
  | cons t ts ih =>
      refine (addLiteral_reads hg first last hp t).bind fun _ q _ hq => ?_
      split
      · exact .ite (fun _ => .skip (addBytes_passes _ _) fun _ _ _ => .faultAtLast _) fun _ => ih hq
      · exact .ret hq

theorem addAllBytes_passes (hg : g.Lays) (first last : Token) (ts : List Token)
    (value : List UInt8) : (addAllBytes g first last ts value).Passes v i := by
  induction ts generalizing value i with
  | nil => exact Reads.ret trivial
  | cons t ts ih =>
      refine Reads.skip (addBytes_passes _ _) fun _ value _ => ?_
      split
      · refine .ite (fun _ => ih value) fun _ => .ite (fun _ => .faultAtLast _) fun _ => ?_
        exact .skip (addLiteral_reads hg first last Pieces.none_arranged _).passes
          fun _ _ _ => .faultAtLast _
      · exact .ret trivial

theorem strings_reads (hg : g.Lays) : (strings g).Reads v i fun _ => StillString v.imports := by
  refine .skip (Reads.many1 (L := fun _ _ _ => True) fun _ => Passes.kind _).passes
    fun _ tokens _ => ?_
  split
  · refine .ite (fun _ => ?_) fun _ => ?_
    · exact .skip (addAllBytes_passes hg _ _ _ _) fun _ _ _ =>
        .ret ⟨.node rfl (by simp) _, fun _ _ => nofun⟩
    · exact (addLiterals_reads hg _ _ _ Pieces.none_arranged).bind fun _ p _ hp =>
        .ret (hp.finish _ _)
  · exact .fail

end SourceLoader.Grammar
