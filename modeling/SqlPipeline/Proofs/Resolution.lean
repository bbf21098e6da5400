/-
**What looking up names promises about a query.**

`WellFormed` asks of a query what planning needs not to fail for an internal cause.  Here is all
that looking up names promises about a query over one table, for every catalog and every text, and
for tables and selections that are empty as well.

The output columns are told by what was *asked* for: every item of the selection asks for one
output column, and a star for all columns of the table.  Adding them one by one, each compared
with those before it, comes to a rule about the whole list: what is asked for again repeats the
first that asked for the same.  That rule needs no more than that equality of values is symmetric
and transitive; that no two output columns that are left have the same kind also needs that no
literal of a query is `nan`.

Main definitions:

* `Query.Scope.asked`, `Query.Scope.wanted` — what the items of a selection ask for, and under which
  names;
* `Query.shared` — what is asked for, with repetitions as aliases of the first;
* `Query.Resolved.kinds`, `Query.Resolved.columns` — what a query computes, and the columns in it;
* `Query.AliasesEarlier` — each alias repeats an earlier output column that is none;
* `Query.Regular` — what looking up names promises.

Main results:

* `Query.Scope.projections_induct` — what each added output column keeps, all of them have;
* `Query.Scope.map_kind_projections` — **the output columns are what is asked for, shared**;
* `Query.Scope.ensures_beq_kind` — what is asked for is equal to itself;
* `Query.ofText_regular` — **a text over one table gives a regular query**.
-/

import SqlPipeline.Proofs.Sameness
import SqlPipeline.Proofs.WellFormed

set_option autoImplicit false

namespace SqlPipeline

/-! ### Literals are numbers -/

namespace Binary64

theorem ofQuotient_ne_nan (negative : Bool) (num den : Nat) :
    ofQuotient negative num den ≠ nan := by
  unfold ofQuotient zero
  grind

theorem ofDecimal_ne_nan (negative : Bool) (digits : Nat) (scale : Int) :
    ofDecimal negative digits scale ≠ nan := by
  have h := ofQuotient_ne_nan negative
  unfold ofDecimal zero
  grind

theorem ofUnsigned?_ne_nan (negative : Bool) (cs : List Char) :
    ofUnsigned? negative cs ≠ some nan := by
  have h := ofDecimal_ne_nan negative
  unfold ofUnsigned?
  grind

end Binary64

namespace Query

open Sql

/-- The word for `nan` has neither a point nor an exponent. -/
theorem any_decimal_of_nan {cs : List Char}
    (h : String.ofList (cs.map Char.toLower) = "nan") :
    cs.any (fun c => c == '.' || c == 'e' || c == 'E') = false := by
  have hword : cs.map Char.toLower = ['n', 'a', 'n'] := String.ofList_injective h
  rw [List.any_eq_false]
  intro c hc hdecimal
  have hlower : c.toLower ∈ ['n', 'a', 'n'] := hword ▸ List.mem_map_of_mem hc
  simp only [Bool.or_eq_true, beq_iff_eq] at hdecimal
  rcases hdecimal with (rfl | rfl) | rfl
  all_goals exact absurd hlower (by decide)

theorem ofText?_ne_nan {text : String} (h : isDecimalText text = true) :
    Binary64.ofText? text ≠ some .nan := by
  unfold isDecimalText at h
  unfold Binary64.ofText?
  split
  next negative cs heq =>
    -- the sign, if there is one, is neither a point nor an exponent
    have hcs : cs.any (fun c => c == '.' || c == 'e' || c == 'E') = true := by
      split at heq <;> cases heq <;> simp_all
    dsimp only
    split
    · simp
    · split
      · next hword =>
          rw [any_decimal_of_nan (eq_of_beq hword)] at hcs
          cases hcs
      · exact Binary64.ofUnsigned?_ne_nan negative cs

/-- A number in a query is equal to itself. -/
theorem ensures_beq_numberLiteral (text : String) :
    Ensures (fun _ => True) (fun l => (l == l) = true) (numberLiteral text) := by
  unfold numberLiteral
  split
  · next hdecimal =>
      split
      · next x hx =>
          have hne : x ≠ .nan := fun h => ofText?_ne_nan hdecimal (h ▸ hx)
          exact ensures_ok (Literal.same_iff.2 (.decimal (Binary64.beq_self_iff.2 hne)))
      · exact ensures_error trivial
  · split
    · exact ensures_ok (Literal.same_iff.2 (.integer _))
    · exact ensures_error trivial

theorem beq_self_neg? {l l' : Literal} (h : (l == l) = true) (h' : l.neg? = some l') :
    (l' == l') = true := by
  cases l with
  | integer v =>
      cases h'
      exact Literal.same_iff.2 (.integer _)
  | decimal x =>
      cases h'
      have hne : x ≠ .nan := Binary64.beq_self_iff.1 h
      refine Literal.same_iff.2 (.decimal (Binary64.beq_self_iff.2 ?_))
      cases x <;> simp_all [Binary64.neg]
  | text s => cases h'

theorem ensures_beq_literal? (e : Expr) :
    Ensures (fun _ => True) (fun r => ∀ l ∈ r, (l == l) = true) (literal? e) := by
  fun_induction literal? e with
  | case1 text =>
      refine ensures_bind (ensures_beq_numberLiteral text) fun l hl => ensures_pure ?_
      simpa using hl
  | case2 s => exact ensures_pure fun l hl => Option.mem_some.1 hl ▸ Literal.same_iff.2 (.text s)
  | case3 e ih =>
      refine ensures_bind ih fun r hr => ensures_pure fun l' hl' => ?_
      obtain ⟨l, hl, hneg⟩ := Option.bind_eq_some_iff.1 hl'
      exact beq_self_neg? (hr l hl) hneg
  | case4 e ih => exact ih
  | case5 e ih => exact ih
  | case6 => exact ensures_pure (by simp)

namespace Scope

variable (s : Scope)

theorem ensures_beq_atomOr (e : Expr) {other : Except Fault Scalar}
    (h : Ensures (fun _ => True) (fun a => a.Same a) other) :
    Ensures (fun _ => True) (fun a => a.Same a) (do
      if let some a ← s.atom? e then return a
      other) := by
  have hatom : Ensures (fun _ => True) (fun r => ∀ a ∈ r, a.Same a) (s.atom? e) := by
    unfold atom?
    refine ensures_bind (ensures_beq_literal? e) fun l hl => ?_
    split
    · exact ensures_pure fun a ha => Option.mem_some.1 ha ▸ .literal (hl _ rfl)
    · refine ensures_bind (ensures_eq _) fun column _ => ?_
      split
      · exact ensures_pure fun a ha => Option.mem_some.1 ha ▸ .column _
      · split
        · exact ensures_throw trivial
        · exact ensures_pure (by simp)
  refine ensures_bind hatom fun a ha => ?_
  split
  · exact ensures_pure (ha _ rfl)
  · exact h

theorem ensures_beq_scalar (e : Expr) :
    Ensures (fun _ => True) (fun a => a.Same a) (s.scalar e) := by
  induction e with
  | nested inner ih =>
      unfold scalar
      exact s.ensures_beq_atomOr _ ih
  | sign negative inner ih =>
      unfold scalar
      refine s.ensures_beq_atomOr _ ?_
      cases negative with
      | true =>
          refine ensures_bind ih fun b hb => ensures_pure ?_
          exact .binary _ (.literal (Literal.same_iff.2 (.integer 0))) hb
      | false => exact ih
  | binary op l r ihl ihr =>
      unfold scalar
      refine s.ensures_beq_atomOr _ ?_
      cases op with
      | arith op =>
          exact ensures_bind ihl fun b hb => ensures_bind ihr fun c hc =>
            ensures_pure (.binary op hb hc)
      | _ => exact ensures_throw trivial
  | rounded up inner _ ih =>
      unfold scalar
      refine s.ensures_beq_atomOr _ ?_
      exact ensures_bind ih fun b hb => ensures_pure (.apply _ hb)
  | call f arg ih =>
      unfold scalar
      refine s.ensures_beq_atomOr _ ?_
      refine ensures_bind (ensures_eq _) fun _ _ => ?_
      exact ensures_bind ih fun b hb => ensures_pure (.apply _ hb)
  | callWith f args =>
      unfold scalar
      refine s.ensures_beq_atomOr _ ?_
      exact ensures_bind (ensures_eq _) fun _ _ => ensures_throw trivial
  | _ =>
      unfold scalar
      exact s.ensures_beq_atomOr _ (ensures_throw trivial)

/-- What an expression computes as an output column is equal to itself. -/
theorem ensures_beq_kind (e : Expr) :
    Ensures (fun _ => True) (fun kind => (kind == kind) = true) (s.kind e) := by
  unfold kind
  refine ensures_bind (ensures_eq _) fun column _ => ?_
  split
  · exact ensures_pure (Kind.same_iff.2 (.column _))
  · refine ensures_bind (ensures_eq _) fun call _ => ?_
    split
    · exact ensures_pure (Kind.same_iff.2 (.aggregate _))
    · refine ensures_bind (s.ensures_beq_scalar e) fun a ha => ensures_pure ?_
      exact Kind.same_iff.2 (.arithmetic (Scalar.same_iff.2 ha))

end Scope

/-! ### Repeated output columns -/

/-- What is asked for after other output columns: an alias of the first of them that asks for the
same, if there is one. -/
def sharedAfter (earlier : List Kind) (kind : Kind) : Kind :=
  match earlier.findIdx? (· == kind) with
  | some first => .aliasOf first
  | none => kind

/-- What is asked for, with each repetition as an alias of the first that asks for the same. -/
def shared (asked : List Kind) : List Kind :=
  asked.mapIdx fun i kind => sharedAfter (asked.take i) kind

theorem shared_concat (asked : List Kind) (kind : Kind) :
    shared (asked ++ [kind]) = shared asked ++ [sharedAfter asked kind] := by
  unfold shared
  rw [List.mapIdx_concat, List.take_left]
  congr 1
  refine List.mapIdx_eq_mapIdx_iff.2 fun i hi => ?_
  rw [List.take_append_of_le_length (by omega)]

section

variable {asked : List Kind}

theorem length_shared : (shared asked).length = asked.length :=
  List.length_mapIdx

theorem getElem_shared {i : Nat} (h : i < (shared asked).length) (hi : i < asked.length) :
    (shared asked)[i] = sharedAfter (asked.take i) asked[i] :=
  List.getElem_mapIdx

/-- An output column that is left is what was asked for. -/
theorem sharedAfter_of_not_alias {earlier : List Kind} {kind : Kind}
    (h : (sharedAfter earlier kind).isAlias = false) :
    sharedAfter earlier kind = kind ∧ ∀ k ∈ earlier, (k == kind) = false := by
  unfold sharedAfter at h ⊢
  split at h
  · cases h
  · next hfind => exact ⟨rfl, List.findIdx?_eq_none_iff.1 hfind⟩

/-- The first that asks for something is left as it is: anything before it that asked for the same
would be the first itself. -/
theorem sharedAfter_first {kind : Kind} {i : Nat} (h : asked.findIdx? (· == kind) = some i)
    (hi : i < asked.length) : sharedAfter (asked.take i) asked[i] = asked[i] := by
  obtain ⟨_, hfirst, hbefore⟩ := List.findIdx?_eq_some_iff_getElem.1 h
  have hnone : (asked.take i).findIdx? (· == asked[i]) = none := by
    rw [List.findIdx?_eq_none_iff]
    intro earlier hearlier
    obtain ⟨j, hj, rfl⟩ := List.mem_take_iff_getElem.1 hearlier
    have hdiffers : ¬(asked[j] == kind) = true := hbefore j (by omega)
    by_contra hsame
    rw [Bool.not_eq_false] at hsame
    exact hdiffers (PartialEquivBEq.trans hsame hfirst)
  rw [sharedAfter, hnone]

/-- **Looking for the same among the output columns that are left finds the first that asks for
it.** -/
theorem findIdx?_shared (hasked : ∀ kind ∈ asked, kind.isAlias = false) (kind : Kind) :
    (shared asked).findIdx? (fun k : Kind => k == kind && !k.isAlias)
      = asked.findIdx? (· == kind) := by
  have hlen : (shared asked).length = asked.length := length_shared
  -- an output column that is found asks for the same
  have hfound : ∀ (i : Nat) (hi : i < asked.length) (hi' : i < (shared asked).length),
      ((shared asked)[i] == kind && !(shared asked)[i].isAlias) = true →
      (asked[i] == kind) = true := by
    intro i hi hi' h
    rw [Bool.and_eq_true, Bool.not_eq_true', getElem_shared hi' hi] at h
    rw [(sharedAfter_of_not_alias h.2).1] at h
    exact h.1
  cases hfind : asked.findIdx? (· == kind) with
  | none =>
      rw [List.findIdx?_eq_none_iff] at hfind ⊢
      intro k hk
      obtain ⟨i, hi, rfl⟩ := List.mem_iff_getElem.1 hk
      by_contra h
      rw [Bool.not_eq_false] at h
      have hsame := hfound i (by omega) hi h
      rw [hfind _ (List.getElem_mem _)] at hsame
      cases hsame
  | some i =>
      obtain ⟨hlt, hfirst, hbefore⟩ := List.findIdx?_eq_some_iff_getElem.1 hfind
      refine List.findIdx?_eq_some_iff_getElem.2 ⟨by omega, ?_, ?_⟩
      · rw [getElem_shared (by omega) hlt, sharedAfter_first hfind hlt, hfirst,
          hasked _ (List.getElem_mem hlt)]
        rfl
      · intro j hj h
        exact hbefore j hj (hfound j (by omega) (by omega) h)

theorem map_kind_addProjection {ps : List Projection}
    (hasked : ∀ kind ∈ asked, kind.isAlias = false) (h : ps.map Projection.kind = shared asked)
    (kind : Kind) (name : String) (label : Option String) :
    (addProjection ps kind name label).map Projection.kind = shared (asked ++ [kind]) := by
  have hfind : ps.findIdx? (fun p => p.kind == kind && !p.kind.isAlias)
      = asked.findIdx? (· == kind) := by
    rw [← findIdx?_shared hasked kind, ← h, List.findIdx?_map]
    rfl
  rw [addProjection, hfind, List.map_append, h, shared_concat]
  rfl

/-- An output column is left because nothing before it asks for the same, or is an alias of an
earlier one that is left and asks for the same. -/
theorem getElem?_shared_cases {i : Nat} {kind : Kind} (h : (shared asked)[i]? = some kind) :
    (asked[i]? = some kind ∧ ∀ k ∈ asked.take i, (k == kind) = false) ∨
      ∃ first k, kind = .aliasOf first ∧ first < i ∧ asked[first]? = some k ∧
        (shared asked)[first]? = some k ∧ ∀ a, asked[i]? = some a → (k == a) = true := by
  obtain ⟨hi, rfl⟩ := List.getElem?_eq_some_iff.1 h
  have hlen : (shared asked).length = asked.length := length_shared
  have hi' : i < asked.length := by omega
  rw [getElem_shared hi hi']
  cases hfind : (asked.take i).findIdx? (· == asked[i]) with
  | none =>
      refine .inl ⟨?_, ?_⟩ <;> rw [sharedAfter, hfind]
      · exact List.getElem?_eq_getElem hi'
      · exact List.findIdx?_eq_none_iff.1 hfind
  | some first =>
      obtain ⟨hfirst, hsame, -⟩ := List.findIdx?_eq_some_iff_getElem.1 hfind
      rw [List.getElem_take] at hsame
      rw [List.length_take] at hfirst
      -- the first before it that asks for the same is the first of all
      have hall : asked.findIdx? (· == asked[i]) = some first := by
        have happend : (asked.take i ++ asked.drop i).findIdx? (· == asked[i]) = some first := by
          rw [List.findIdx?_append, hfind]
          rfl
        rwa [List.take_append_drop] at happend
      refine .inr ⟨first, asked[first], by rw [sharedAfter, hfind], by omega, ?_, ?_, ?_⟩
      · exact List.getElem?_eq_getElem (by omega)
      · rw [List.getElem?_eq_getElem (by omega), getElem_shared (by omega) (by omega),
          sharedAfter_first hall (by omega)]
      · intro a ha
        rw [List.getElem?_eq_getElem hi', Option.some.injEq] at ha
        rwa [← ha]

/-- What is asked for again is an alias. -/
theorem getElem?_shared_of_repeated {i j : Nat} {a b : Kind} (hij : i < j)
    (ha : asked[i]? = some a) (hb : asked[j]? = some b) (hsame : (a == b) = true) :
    ∃ first ≤ i, (shared asked)[j]? = some (.aliasOf first) := by
  have hlen : (shared asked).length = asked.length := length_shared
  obtain ⟨hi, rfl⟩ := List.getElem?_eq_some_iff.1 ha
  obtain ⟨hj, rfl⟩ := List.getElem?_eq_some_iff.1 hb
  rw [List.getElem?_eq_getElem (by omega), getElem_shared (by omega) hj, sharedAfter]
  cases hfind : (asked.take j).findIdx? (· == asked[j]) with
  | none =>
      have hmem : asked[i] ∈ asked.take j := List.mem_take_iff_getElem.2 ⟨i, by omega, rfl⟩
      rw [List.findIdx?_eq_none_iff.1 hfind _ hmem] at hsame
      cases hsame
  | some first =>
      obtain ⟨_, -, hbefore⟩ := List.findIdx?_eq_some_iff_getElem.1 hfind
      refine ⟨first, ?_, rfl⟩
      by_contra hlt
      refine hbefore i (by omega) ?_
      rwa [List.getElem_take]

/-- Output columns that are left differ. -/
theorem pairwise_shared (hasked : ∀ kind ∈ asked, kind.isAlias = false ∧ (kind == kind) = true) :
    (shared asked).Pairwise fun a b =>
      a.isAlias = false → b.isAlias = false → (a == b) = false ∧ a ≠ b := by
  rw [List.pairwise_iff_getElem]
  intro i j hi hj hij ha hb
  obtain ⟨ha', -⟩ | ⟨first, k, heq, -⟩ := getElem?_shared_cases (List.getElem?_eq_getElem hi)
  · obtain ⟨-, hdiffers⟩ | ⟨first, k, heq, -⟩ :=
      getElem?_shared_cases (List.getElem?_eq_getElem hj)
    · have hmem : (shared asked)[i] ∈ asked.take j := by
        obtain ⟨hi', heq⟩ := List.getElem?_eq_some_iff.1 ha'
        exact List.mem_take_iff_getElem.2 ⟨i, by omega, heq⟩
      have hne := hdiffers _ hmem
      refine ⟨hne, fun heq => ?_⟩
      rw [← heq, (hasked _ (List.mem_of_mem_take hmem)).2] at hne
      cases hne
    · rw [heq] at hb
      cases hb
  · rw [heq] at ha
    cases ha

/-- Output columns that read columns of the table, with repetitions as aliases. -/
theorem ordered_of_shared {width : Nat} {ps : List Projection}
    (hasked : ∀ kind ∈ asked, kind.Reads width) (h : ps.map Projection.kind = shared asked) :
    Ordered width ps := by
  rintro done p rest rfl
  have hp : (shared asked)[done.length]? = some p.kind := by simp [← h]
  obtain ⟨hleft, -⟩ | ⟨first, k, heq, hlt, hk, hfirst, -⟩ := getElem?_shared_cases hp
  · exact Kind.readsAfter_of_reads (hasked _ (List.mem_of_getElem? hleft))
  · rw [heq]
    refine ⟨done[first], List.getElem?_eq_getElem hlt, ?_⟩
    have hkind : (done[first]).kind = k := by
      rw [← h, List.map_append, List.getElem?_append_left (by simpa using hlt),
        List.getElem?_map, List.getElem?_eq_getElem hlt] at hfirst
      exact Option.some.inj hfirst
    rw [hkind]
    exact hasked k (List.mem_of_getElem? hk)

end

/-! ### What a selection asks for -/

theorem Kind.Reads.not_alias {width : Nat} {kind : Kind} (h : kind.Reads width) :
    kind.isAlias = false := by
  cases kind with
  | aliasOf target => exact h.elim
  | _ => rfl

namespace Scope

variable (s : Scope)

/-- The output columns that an item asks for.  A star asks for every column. -/
def kinds : SelectItem → Except Fault (List Kind)
  | .star _ => return (List.range s.table.columns.length).map Kind.column
  | .expr e _ => return [← s.kind e]

/-- The output columns that the items of a selection ask for. -/
def asked (items : List SelectItem) : Except Fault (List Kind) :=
  return (← items.mapM s.kinds).flatten

/-- What is asked for is no alias, reads columns of the table, and is equal to itself. -/
def Answers (kind : Kind) : Prop :=
  kind.Reads s.table.columns.length ∧ (kind == kind) = true

theorem Answers.not_alias {s : Scope} {kind : Kind} (h : s.Answers kind) :
    kind.isAlias = false :=
  h.1.not_alias

/-- The name that an output column asks for: the one it is given, or else one made from what it
computes and from its position. -/
def wanted (label : Option String) (kind : Kind) (position : Nat) : String :=
  label.getD (s.defaultName kind position)

section

variable {I : List Kind → List Projection → Prop}
  (step : ∀ asked ps kind label, s.Answers kind → I asked ps →
    I (asked ++ [kind]) (addProjection ps kind (s.wanted label kind ps.length) label))

include step

/-- A star adds columns that are given no name, and have their own by default. -/
theorem addColumns_induct {cs : List (Catalog.Column × Nat)}
    (hcs : ∀ c ∈ cs, s.table.columns[c.2]? = some c.1) {asked : List Kind} {ps : List Projection}
    (h : I asked ps) :
    I (asked ++ cs.map fun c => Kind.column c.2)
      (cs.foldl (fun ps (c, i) => addProjection ps (.column i) c.name none) ps) := by
  induction cs generalizing asked ps with
  | nil => simpa using h
  | cons c cs ih =>
      obtain ⟨hc, hcs⟩ := List.forall_mem_cons.1 hcs
      have hanswers : s.Answers (.column c.2) :=
        ⟨(List.getElem?_eq_some_iff.1 hc).1, Kind.same_iff.2 (.column c.2)⟩
      have hname : s.wanted none (.column c.2) ps.length = c.1.name := by
        show (s.table.columns[c.2]?.map Catalog.Column.name).getD "" = c.1.name
        rw [hc]
        rfl
      have hfirst := step asked ps (.column c.2) none hanswers h
      rw [hname] at hfirst
      have hrest := ih hcs hfirst
      rwa [List.append_assoc] at hrest

theorem addItem_induct {ps ps' : List Projection} {item : SelectItem} {asked : List Kind}
    (h : I asked ps) (hitem : s.addItem ps item = .ok ps') :
    ∃ ks, s.kinds item = .ok ks ∧ I (asked ++ ks) ps' := by
  cases item with
  | star qualifier =>
      obtain rfl := Outcome.pure_eq_ok.1 hitem
      refine ⟨_, rfl, ?_⟩
      have hcolumns : (s.table.columns.zipIdx.map fun c => Kind.column c.2)
          = (List.range s.table.columns.length).map Kind.column := by
        rw [List.range_eq_range', ← List.zipIdx_map_snd, List.map_map]
        rfl
      rw [← hcolumns]
      exact s.addColumns_induct step (fun c hc => List.mem_zipIdx_iff_getElem?.1 hc) h
  | expr e label =>
      obtain ⟨kind, hkind, hps⟩ := Outcome.bind_eq_ok.1 hitem
      obtain rfl := Outcome.pure_eq_ok.1 hps
      have hanswers : s.Answers kind :=
        ⟨(s.ensures_kind e).1 kind hkind, (s.ensures_beq_kind e).1 kind hkind⟩
      exact ⟨[kind], Outcome.bind_eq_ok.2 ⟨kind, hkind, rfl⟩, step _ _ kind _ hanswers h⟩

/-- What holds before there are output columns, and is kept by each one that is added, holds of the
output columns of a selection and of what its items ask for. -/
theorem projections_induct {items : List SelectItem} {ps : List Projection}
    (h : s.projections items = .ok ps) (h₀ : I [] []) :
    ∃ asked, s.asked items = .ok asked ∧ I asked ps := by
  -- along the items, with what the items so far ask for
  have key : ∃ parts, items.mapM s.kinds = .ok parts ∧ I parts.flatten ps := by
    refine Outcome.foldlM_induct
      (I := fun done ps => ∃ parts, done.mapM s.kinds = .ok parts ∧ I parts.flatten ps)
      h ⟨[], rfl, h₀⟩ ?_
    rintro done item rest ps ps' - ⟨parts, hparts, hps⟩ hitem
    obtain ⟨ks, hks, hps'⟩ := s.addItem_induct step hps hitem
    refine ⟨parts ++ [ks], ?_, by simpa using hps'⟩
    rw [Outcome.mapM_eq_ok] at hparts ⊢
    exact List.rel_append hparts (.cons hks .nil)
  obtain ⟨parts, hparts, hps⟩ := key
  exact ⟨parts.flatten, Outcome.bind_eq_ok.2 ⟨parts, hparts, rfl⟩, hps⟩

end

/-- **The output columns are what is asked for, shared.** -/
theorem map_kind_projections {items : List SelectItem} {ps : List Projection}
    (h : s.projections items = .ok ps) :
    ∃ asked, s.asked items = .ok asked ∧ (∀ kind ∈ asked, s.Answers kind) ∧
      ps.map Projection.kind = shared asked := by
  refine s.projections_induct (I := fun asked ps =>
    (∀ kind ∈ asked, s.Answers kind) ∧ ps.map Projection.kind = shared asked) ?_ h ⟨by simp, rfl⟩
  rintro asked ps kind label hkind ⟨hanswers, hps⟩
  refine ⟨List.forall_mem_append.2 ⟨hanswers, List.forall_mem_singleton.2 hkind⟩, ?_⟩
  exact map_kind_addProjection (fun k hk => (hanswers k hk).not_alias) hps kind _ _

end Scope

/-! ### Regular queries -/

/-- The columns of what is computed; those of an alias are read elsewhere. -/
def Kind.columns : Kind → List Nat
  | .column n => [n]
  | .arithmetic e => e.occurrences
  | .aggregate call => call.column.toList
  | .aliasOf _ => []

/-- The value of the group on a side of a condition, if it is one. -/
def HavingOperand.kinds : HavingOperand → List Kind
  | .projected kind => [kind]
  | _ => []

/-- The values of the group in a condition. -/
def HavingTerm.kinds : HavingTerm → List Kind
  | .comparison _ left right => left.kinds ++ right.kinds
  | .unsupported _ => []

/-- What the output columns of a query compute. -/
def Resolved.outputs (q : Resolved) : List Kind :=
  q.projections.map Projection.kind

/-- What a query computes: its output columns, and the values of the group in its conditions. -/
def Resolved.kinds (q : Resolved) : List Kind :=
  q.outputs ++ q.having.flatMap HavingTerm.kinds

/-- The columns that occur in a query. -/
def Resolved.columns (q : Resolved) : List Nat :=
  q.predicates.map Comparison.column ++ q.groupBy.flatMap Scalar.occurrences
    ++ q.kinds.flatMap Kind.columns

/-- Each alias among output columns repeats an earlier one that is none itself. -/
def AliasesEarlier (kinds : List Kind) : Prop :=
  ∀ i target : Nat, kinds[i]? = some (.aliasOf target) →
    target < i ∧ ∃ kind, kinds[target]? = some kind ∧ kind.isAlias = false

/-- What looking up names promises about a query over a table, whose items ask for the given output
columns. -/
structure Regular (t : Catalog.Table) (asked : List Kind) (q : Resolved) : Prop where
  tables_eq : q.tables = [t]
  length_hints : q.hints.length = t.columns.length
  columns_lt : ∀ n ∈ q.columns, n < t.columns.length
  outputs_eq : q.outputs = shared asked
  aliases_earlier : AliasesEarlier q.outputs
  different : q.outputs.Pairwise fun a b =>
    a.isAlias = false → b.isAlias = false → (a == b) = false ∧ a ≠ b
  repeated : ∀ (i j : Nat) (a b : Kind), i < j → asked[i]? = some a → asked[j]? = some b →
    (a == b) = true → ∃ first ≤ i, q.outputs[j]? = some (.aliasOf first)
  having_not_alias : ∀ h ∈ q.having, ∀ kind ∈ h.kinds, kind.isAlias = false
  call_column : ∀ call, .aggregate call ∈ q.kinds → call.function ≠ .count → call.column.isSome
  aggregated_iff : q.aggregated = true ↔ ∃ kind ∈ q.kinds, kind.isAggregate = true

theorem HavingTerm.reads_kinds {width : Nat} {h : HavingTerm} (hreads : h.Reads width) :
    ∀ kind ∈ h.kinds, kind.Reads width := by
  have hside : ∀ o : HavingOperand, o.Reads width → ∀ kind ∈ o.kinds, kind.Reads width := by
    intro o ho
    cases o with
    | projected kind => exact List.forall_mem_singleton.2 ho
    | _ => simp [HavingOperand.kinds]
  cases h with
  | comparison op left right =>
      exact List.forall_mem_append.2 ⟨hside left hreads.1, hside right hreads.2⟩
  | unsupported text => simp [kinds]

theorem HavingTerm.isAggregate_iff {h : HavingTerm} :
    h.isAggregate = true ↔ ∃ kind ∈ h.kinds, kind.isAggregate = true := by
  have hside : ∀ o : HavingOperand, o.isAggregate = true ↔
      ∃ kind ∈ o.kinds, kind.isAggregate = true := by
    intro o
    cases o <;> simp [HavingOperand.isAggregate, HavingOperand.kinds]
  cases h with
  | comparison op left right =>
      simp only [HavingTerm.isAggregate, kinds, Bool.or_eq_true, hside, List.mem_append,
        or_and_right, exists_or]
  | unsupported text => simp [HavingTerm.isAggregate, kinds]

theorem Kind.columns_lt {width : Nat} {kind : Kind}
    (h : kind.isAlias = false → kind.Reads width) : ∀ n ∈ kind.columns, n < width := by
  cases kind with
  | column m => exact List.forall_mem_singleton.2 (h rfl)
  | arithmetic e => exact h rfl
  | aggregate call =>
      intro n hn
      have hreads : call.Reads width := h rfl
      exact hreads.1 n (Option.mem_toList.1 hn)
  | aliasOf target => simp [columns]

namespace Resolved

variable {q : Resolved} {width : Nat}

/-- What a query computes reads columns of the table, unless it is an alias. -/
theorem reads_kinds (hp : Ordered width q.projections) (hh : ∀ h ∈ q.having, h.Reads width)
    {kind : Kind} (h : kind ∈ q.kinds) (hne : kind.isAlias = false) : kind.Reads width := by
  rcases List.mem_append.1 h with h | h
  · obtain ⟨p, hmem, rfl⟩ := List.mem_map.1 h
    exact hp.reads hmem hne
  · obtain ⟨term, hmem, hkind⟩ := List.mem_flatMap.1 h
    exact HavingTerm.reads_kinds (hh term hmem) kind hkind

theorem columns_lt (hp : Ordered width q.projections)
    (hpredicates : ∀ c ∈ q.predicates, c.column < width)
    (hgroups : ∀ e ∈ q.groupBy, e.Within width) (hh : ∀ h ∈ q.having, h.Reads width) :
    ∀ n ∈ q.columns, n < width := by
  intro n hn
  rcases List.mem_append.1 hn with hn | hn
  · rcases List.mem_append.1 hn with hn | hn
    · obtain ⟨c, hc, rfl⟩ := List.mem_map.1 hn
      exact hpredicates c hc
    · obtain ⟨e, he, hn⟩ := List.mem_flatMap.1 hn
      exact hgroups e he n hn
  · obtain ⟨kind, hkind, hn⟩ := List.mem_flatMap.1 hn
    exact Kind.columns_lt (reads_kinds hp hh hkind) n hn

theorem aggregated_iff (h : q.aggregated = (q.projections.any (fun p => p.kind.isAggregate)
      || q.having.any HavingTerm.isAggregate)) :
    q.aggregated = true ↔ ∃ kind ∈ q.kinds, kind.isAggregate = true := by
  simp only [h, kinds, outputs, Bool.or_eq_true, List.any_eq_true, List.mem_append, List.mem_map,
    List.mem_flatMap, HavingTerm.isAggregate_iff]
  grind

end Resolved

/-- The parts of the query of a selection from one table. -/
theorem overScope_eq_ok {s : Scope} {outerJoin : Bool} {sel : Select} {orderBy : List OrderItem}
    {q : Resolved} (h : overScope s outerJoin sel orderBy = .ok q) :
    s.projections sel.items = .ok q.projections ∧
      clause s.conditions sel.selection = .ok q.predicates ∧
      s.grouping q.projections sel.grouping = .ok q.groupBy ∧
      clause (s.havingTerms q.projections) sel.having = .ok q.having ∧
      q.tables = [s.table] ∧ q.hints = s.table.hints ∧
      q.aggregated = (q.projections.any (fun p => p.kind.isAggregate)
        || q.having.any HavingTerm.isAggregate) := by
  rw [overScope_eq, Outcome.bind_eq_ok] at h
  obtain ⟨ps, hps, h⟩ := h
  obtain ⟨predicates, hpredicates, h⟩ := Outcome.bind_eq_ok.1 h
  obtain ⟨groupBy, hgroupBy, h⟩ := Outcome.bind_eq_ok.1 h
  obtain ⟨having, hhaving, h⟩ := Outcome.bind_eq_ok.1 h
  obtain ⟨_, -, h⟩ := Outcome.bind_eq_ok.1 h
  obtain rfl := Outcome.pure_eq_ok.1 h
  exact ⟨hps, hpredicates, hgroupBy, hhaving, rfl, rfl, rfl⟩

/-- **The query of a selection from one table is regular.** -/
theorem regular_of_overScope {s : Scope} {outerJoin : Bool} {sel : Select}
    {orderBy : List OrderItem} {q : Resolved} (h : overScope s outerJoin sel orderBy = .ok q) :
    ∃ asked, s.asked sel.items = .ok asked ∧ Regular s.table asked q := by
  obtain ⟨hps, hpredicates, hgroupBy, hhaving, htables, hhints, haggregated⟩ := overScope_eq_ok h
  obtain ⟨asked, hasked, hanswers, hkinds⟩ := s.map_kind_projections hps
  have hordered := ordered_of_shared (fun kind hkind => (hanswers kind hkind).1) hkinds
  have hcolumns := (ensures_clause s.ensures_conditions _).1 _ hpredicates
  have hgroups := (s.ensures_grouping hordered _).1 _ hgroupBy
  have hterms := (ensures_clause (s.ensures_havingTerms hordered) _).1 _ hhaving
  refine ⟨asked, hasked, ?_⟩
  exact {
    tables_eq := htables
    length_hints := by simp [hhints, Catalog.Table.hints]
    columns_lt := Resolved.columns_lt hordered hcolumns hgroups hterms
    outputs_eq := hkinds
    aliases_earlier := fun i target hi => by
      rw [Resolved.outputs, hkinds] at hi ⊢
      obtain ⟨hleft, -⟩ | ⟨first, k, heq, hlt, hk, hfirst, -⟩ := getElem?_shared_cases hi
      · cases (hanswers _ (List.mem_of_getElem? hleft)).not_alias
      · cases heq
        exact ⟨hlt, k, hfirst, (hanswers k (List.mem_of_getElem? hk)).not_alias⟩
    different := by
      rw [Resolved.outputs, hkinds]
      exact pairwise_shared fun kind hkind =>
        ⟨(hanswers kind hkind).not_alias, (hanswers kind hkind).2⟩
    repeated := fun i j a b hij ha hb hsame => by
      rw [Resolved.outputs, hkinds]
      exact getElem?_shared_of_repeated hij ha hb hsame
    having_not_alias := fun h hh kind hkind =>
      (HavingTerm.reads_kinds (hterms h hh) kind hkind).not_alias
    call_column := fun call hcall =>
      (Resolved.reads_kinds hordered hterms hcall rfl).2
    aggregated_iff := Resolved.aggregated_iff haggregated }

/-- A selection over one table is looked up in its scope. -/
theorem overScope_of_ofSelect {catalog : Catalog.Store} {sel : Select} {orderBy : List OrderItem}
    {q : Resolved} (h : ofSelect catalog sel orderBy = .ok q) (hone : q.tables.length = 1) :
    ∃ s outerJoin, (relations sel).mapM (tableScope catalog) = .ok [s] ∧
      overScope s outerJoin sel orderBy = .ok q := by
  obtain ⟨scopes, hscopes, h⟩ := Outcome.bind_eq_ok.1 h
  split at h
  · cases h
  · next s => exact ⟨s, _, hscopes, h⟩
  · next s ss hne =>
      -- with more tables than one, all of them are kept
      obtain rfl := Outcome.pure_eq_ok.1 h
      cases ss with
      | nil => exact absurd rfl hne
      | cons s' ss => simp at hone

theorem regular_of_ofSelect {catalog : Catalog.Store} {sel : Select} {orderBy : List OrderItem}
    {q : Resolved} (h : ofSelect catalog sel orderBy = .ok q) (hone : q.tables.length = 1) :
    ∃ s asked, (relations sel).mapM (tableScope catalog) = .ok [s] ∧
      s.asked sel.items = .ok asked ∧ Regular s.table asked q := by
  obtain ⟨s, outerJoin, hscopes, h⟩ := overScope_of_ofSelect h hone
  obtain ⟨asked, hasked, hregular⟩ := regular_of_overScope h
  exact ⟨s, asked, hscopes, hasked, hregular⟩

/-- A query that is looked up is a selection. -/
theorem select_of_ofQuery {catalog : Catalog.Store} {sql : Sql.Query} {q : Resolved}
    (h : ofQuery catalog sql = .ok q) :
    ∃ sel, sql.body = .select sel ∧ ofSelect catalog sel sql.orderBy = .ok q := by
  unfold ofQuery at h
  split at h
  · cases h
  · split at h
    · cases h
    · split at h
      · cases h
      · next sel hbody =>
          split at h
          · cases h
          · exact ⟨sel, hbody, h⟩

/-- A text that is looked up is one query. -/
theorem query_of_ofText {catalog : Catalog.Store} {text : String} {q : Resolved}
    (h : ofText catalog text = .ok q) :
    ∃ sql shown, statements text = .ok [.query sql shown] ∧ ofQuery catalog sql = .ok q := by
  unfold ofText at h
  split at h
  · cases h
  · next sts hsts =>
      unfold ofStatements at h
      split at h
      · cases h
      · next sql shown => exact ⟨sql, shown, hsts, h⟩
      · cases h
      · cases h

/-- **A text over one table gives a regular query.**  The table is the one that the selection reads
from, and the output columns are what its items ask for. -/
theorem ofText_regular {catalog : Catalog.Store} {text : String} {q : Resolved}
    (h : ofText catalog text = .ok q) (hone : q.tables.length = 1) :
    ∃ sql shown sel s asked, statements text = .ok [.query sql shown] ∧ sql.body = .select sel ∧
      (relations sel).mapM (tableScope catalog) = .ok [s] ∧ s.asked sel.items = .ok asked ∧
      Regular s.table asked q := by
  obtain ⟨sql, shown, hsts, h⟩ := query_of_ofText h
  obtain ⟨sel, hbody, h⟩ := select_of_ofQuery h
  obtain ⟨s, asked, hscopes, hasked, hregular⟩ := regular_of_ofSelect h hone
  exact ⟨sql, shown, sel, s, asked, hsts, hbody, hscopes, hasked, hregular⟩

/-- A table of the weather. -/
def weather : Catalog.Table where
  name := "weather"
  columns := [⟨"id", .int32⟩, ⟨"temp", .int32⟩, ⟨"hum", .int32⟩]
  primaryKey := some 0

/-- All columns, and repetitions of a column, of an expression with its literal written otherwise,
and of a function of the group; groups and conditions are given by names of output columns. -/
def warmText : String :=
  "SELECT *, temp AS t, temp + 1.0, MAX(hum) AS top, temp + 1.00 AS warm, MAX(hum) FROM weather "
    ++ "GROUP BY warm HAVING top > 3 AND warm < 2"

/-- The expression of the text that is written in two ways. -/
def warmth : Scalar :=
  .binary .add (.column 1) (.literal (.decimal (.finite false 4503599627370496 (-52))))

/-- The query that the text stands for. -/
def warm : Resolved :=
  { Resolved.ofTable weather with
    aggregated := true
    groupBy := [warmth]
    having := [
      .comparison .gt (.projected (.aggregate ⟨.max, some 2⟩)) (.literal (.integer 3)),
      .comparison .lt (.projected (.arithmetic warmth)) (.literal (.integer 2))]
    projections := [
      { name := "id", kind := .column 0 },
      { name := "temp", kind := .column 1 },
      { name := "hum", kind := .column 2 },
      { name := "t", label := some "t", kind := .aliasOf 1 },
      { name := "expr4", kind := .arithmetic warmth },
      { name := "top", label := some "top", kind := .aggregate ⟨.max, some 2⟩ },
      { name := "warm", label := some "warm", kind := .aliasOf 4 },
      { name := "max_hum", kind := .aliasOf 5 }] }

theorem ofText_regular_warmText :
    ofText (Catalog.Store.empty.put weather) warmText = .ok warm ∧ warm.tables.length = 1 ∧
      ∃ asked, Regular weather asked warm := by
  have hwarm : ofText (Catalog.Store.empty.put weather) warmText = .ok warm := by decide +kernel
  refine ⟨hwarm, rfl, ?_⟩
  obtain ⟨_, _, _, s, asked, -, -, -, -, hregular⟩ := ofText_regular hwarm rfl
  have htable : weather = s.table := List.head_eq_of_cons_eq hregular.tables_eq
  exact ⟨asked, htable ▸ hregular⟩

end Query

end SqlPipeline
