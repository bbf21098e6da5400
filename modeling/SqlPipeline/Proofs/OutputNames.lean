/-
**The names of output columns are different identifiers, and none is reserved.**

The name of an output column in the generated program is made from the name that the query asks for.
Characters that an identifier cannot have become underscores, a reserved name gets an underscore at
its end, and a name that an earlier output column has gets a number.  So many names may be made into
one, and what one of these steps makes may be what another output column asks for as it is.  Still
no two names are equal, because each is looked for among the ones before it; and none is reserved,
because no reserved name ends with an underscore or a digit.

Main definitions:

* `Query.Scope.NamedInOrder` — names that are made one after the other from those that are asked
  for;
* `Query.Untouched` — a name that is kept as it is, if no other output column has it.

Main results:

* `Query.not_reserved_of_madeFrom` — no number makes a name reserved;
* `Query.Scope.NamedInOrder.addProjection`, `Query.Scope.names_projections` — one more output
  column, and all of a selection;
* `Query.Scope.output_names` — **output columns have different names, none of them reserved**;
* `Query.Scope.NamedInOrder.name_eq_iff` — the output column that gets an untouched name is the
  first that asks for it.
-/

import SqlPipeline.Proofs.Identifiers

set_option autoImplicit false

namespace SqlPipeline

namespace Query

open Sql

/-! ### Reserved names -/

/-- No reserved name ends with a digit or an underscore. -/
theorem not_reserved_of_getLast? {name : String} {c : Char}
    (h : name.toList.getLast? = some c) (hc : (c.isDigit || c == '_') = true) :
    name ∉ reservedNames := by
  have hends : ∀ r ∈ reservedNames,
      r.toList.getLast?.all (fun c => !(c.isDigit || c == '_')) = true := by decide +kernel
  intro hmem
  have hend := hends name hmem
  rw [h, Option.all_some, hc] at hend
  cases hend

theorem identifier_not_reserved (name : String) : identifier name ∉ reservedNames := by
  unfold identifier
  dsimp only
  split
  · exact not_reserved_of_getLast? (c := '_') (by simp) rfl
  · next hfree => simpa using hfree

/-- A number after an identifier does not make it reserved. -/
theorem not_reserved_of_madeFrom {name made : String}
    (h : Text.MadeFrom (identifier name) made) : made ∉ reservedNames := by
  rcases h with rfl | ⟨n, rfl⟩
  · exact identifier_not_reserved name
  · have hne := Listing.toString_toList_ne_nil n
    have hlast : (toString n).toList.getLast? = some ((toString n).toList.getLast hne) :=
      List.getLast?_eq_some_getLast hne
    have hdigit := Listing.isDigit_of_mem_toString (List.getLast_mem hne)
    refine not_reserved_of_getLast? (c := (toString n).toList.getLast hne) ?_ ?_
    · rw [String.toList_append, List.getLast?_append, hlast]
      rfl
    · rw [hdigit]
      rfl

/-! ### Names in order -/

namespace Scope

/-- Names of output columns that are made one after the other: each is the one that is asked for, as
an identifier, or the first of its numbered forms that no earlier output column has. -/
structure NamedInOrder (s : Scope) (asked : List Kind) (ps : List Projection) : Prop where
  length_eq : asked.length = ps.length
  nodup : (ps.map Projection.name).Nodup
  unreserved : ∀ x ∈ ps, x.name ∉ reservedNames
  name_eq : ∀ (i : Nat) x kind, ps[i]? = some x → asked[i]? = some kind →
    x.name = Text.fresh ((ps.take i).map Projection.name) (identifier (s.wanted x.label kind i))

variable {s : Scope} {asked : List Kind} {ps : List Projection}

theorem names_nil (s : Scope) : s.NamedInOrder [] [] where
  length_eq := rfl
  nodup := List.nodup_nil
  unreserved := by simp
  name_eq := by simp

/-- One more output column gets a name of its own. -/
theorem NamedInOrder.addProjection (h : s.NamedInOrder asked ps) (kind : Kind)
    (label : Option String) : s.NamedInOrder (asked ++ [kind])
      (addProjection ps kind (s.wanted label kind ps.length) label) := by
  obtain ⟨x, hx, hlabel, hname⟩ : ∃ x : Projection,
      Query.addProjection ps kind (s.wanted label kind ps.length) label = ps ++ [x] ∧
        x.label = label ∧ x.name = Text.fresh (ps.map Projection.name)
          (identifier (s.wanted label kind ps.length)) :=
    ⟨_, rfl, rfl, rfl⟩
  rw [hx]
  refine ⟨by simp [h.length_eq], ?_, ?_, ?_⟩
  · rw [List.map_append, List.map_singleton, hname]
    exact Plan.Assembly.nodup_concat h.nodup (Text.fresh_not_mem _ _)
  · refine List.forall_mem_append.2 ⟨h.unreserved, List.forall_mem_singleton.2 ?_⟩
    rw [hname]
    exact not_reserved_of_madeFrom (Text.madeFrom_fresh _ _)
  · intro i y k hy hk
    rcases Plan.getElem?_concat_cases hy with hy | ⟨rfl, rfl⟩
    · -- the name of an output column does not depend on those after it
      have hi := (List.getElem?_eq_some_iff.1 hy).1
      rw [List.getElem?_append_left (by have := h.length_eq; omega)] at hk
      rw [List.take_append_of_le_length (by omega)]
      exact h.name_eq i y k hy hk
    · obtain rfl : kind = k := by simpa [← h.length_eq] using hk
      rw [List.take_left, hname, hlabel]

/-- The names of a selection are made one after the other. -/
theorem names_projections {items : List SelectItem} (h : s.projections items = .ok ps) :
    ∃ asked, s.asked items = .ok asked ∧ s.NamedInOrder asked ps :=
  s.projections_induct (fun _ _ kind label _ hps => hps.addProjection kind label) h s.names_nil

/-- **Output columns have different names, which are identifiers and not reserved.**  Each name is
the one that the search settles on from the name that is asked for, among the names before it, and
the search ends whatever the names before it are. -/
theorem output_names {items : List SelectItem} (h : s.projections items = .ok ps) :
    (ps.map Projection.name).Nodup ∧
      (∀ x ∈ ps, Text.isIdentifier x.name = true ∧ x.name ∉ reservedNames) ∧
      (∃ asked, s.asked items = .ok asked ∧ asked.length = ps.length ∧
        ∀ (i : Nat) x kind, ps[i]? = some x → asked[i]? = some kind →
          Text.Settles ((ps.take i).map Projection.name) (identifier (s.wanted x.label kind i))
            (identifier (s.wanted x.label kind i)) 2 x.name) ∧
      ∀ (qs : List Projection) (name : String), ∃ result,
        Text.Settles (qs.map Projection.name) (identifier name) (identifier name) 2 result := by
  obtain ⟨asked, hasked, hnames⟩ := names_projections h
  refine ⟨hnames.nodup, fun x hx => ?_, ⟨asked, hasked, hnames.length_eq, ?_⟩, ?_⟩
  · exact ⟨identified_projections h x hx, hnames.unreserved x hx⟩
  · intro i x kind hx hkind
    exact Text.settles_iff.2 (hnames.name_eq i x kind hx hkind)
  · intro qs name
    exact ⟨_, Text.settles_iff.2 rfl⟩

/-- A selection whose names meet: a column with the name of a reserved one, what that becomes, what
the next one would be given, and two names that are made into one. -/
def crowdedItems : List SelectItem :=
  [.star [], .expr (.ident ⟨"id", none⟩) (some ⟨"op", none⟩),
   .expr (.number "1" false) (some ⟨"op_", none⟩), .expr (.number "2" false) (some ⟨"op__2", none⟩),
   .expr (.number "3" false) (some ⟨"a b", some '"'⟩),
   .expr (.number "4" false) (some ⟨"a-b", some '"'⟩)]

theorem output_names_crowdedItems :
    ∃ ps, Scope.projections ⟨weather, none⟩ crowdedItems = .ok ps ∧
      ps.map Projection.name
        = ["id", "temp", "hum", "op_", "op__2", "op__2_2", "a_b", "a_b_2"] ∧
      (ps.map Projection.name).Nodup ∧
      ∀ x ∈ ps, Text.isIdentifier x.name = true ∧ x.name ∉ reservedNames := by
  have hmade : (Scope.projections ⟨weather, none⟩ crowdedItems).map (List.map Projection.name)
      = .ok ["id", "temp", "hum", "op_", "op__2", "op__2_2", "a_b", "a_b_2"] := by
    decide +kernel
  obtain ⟨ps, hps, hlist⟩ := Outcome.map_eq_ok.1 hmade
  obtain ⟨hnodup, hnames, -, -⟩ := output_names hps
  exact ⟨ps, hps, hlist, hnodup, hnames⟩

end Scope

/-! ### Names that stay as they are -/

/-- A name that is an identifier as it is, and has no underscore: nothing else is made into it. -/
structure Untouched (name : String) : Prop where
  identifier_eq : identifier name = name
  not_mem : '_' ∉ name.toList

theorem withLead_of_not_mem {cs : List Char} (h : '_' ∉ withLead cs) : withLead cs = cs := by
  cases cs with
  | nil => simp [withLead] at h
  | cons c cs =>
      by_cases hdigit : c.isDigit = true
      · rw [withLead, if_pos hdigit] at h
        simp at h
      · rw [withLead, if_neg hdigit]

theorem identifierChars_of_not_mem {name : String} (h : '_' ∉ identifierChars name) :
    identifierChars name = name.toList := by
  unfold identifierChars at h ⊢
  have hkept : ∀ c ∈ name.toList, (if isIdentifierChar c then c else '_') = c := by
    intro c hc
    by_contra hother
    have hchar : ¬ isIdentifierChar c = true := fun hchar => hother (if_pos hchar)
    exact h (List.mem_map.2 ⟨c, hc, if_neg hchar⟩)
  rw [List.map_congr_left hkept, List.map_id']

/-- Only an untouched name itself is made into it. -/
theorem Untouched.identifier_eq_iff {r : String} (hr : Untouched r) {name : String} :
    identifier name = r ↔ name = r := by
  constructor
  · intro h
    unfold identifier at h
    dsimp only at h
    split at h
    · exact absurd (by simp [← h]) hr.not_mem
    · have hlead : '_' ∉ withLead (identifierChars name) := by
        have := hr.not_mem
        rwa [← h, String.toList_ofList] at this
      have hchars := withLead_of_not_mem hlead
      rw [hchars] at hlead
      rw [hchars, identifierChars_of_not_mem hlead, String.ofList_toList] at h
      exact h
  · rintro rfl
    exact hr.identifier_eq

/-- A fresh name without an underscore is the name itself. -/
theorem fresh_eq_iff {used : List String} {base r : String} (hr : '_' ∉ r.toList) :
    Text.fresh used base = r ↔ base = r ∧ r ∉ used := by
  constructor
  · intro h
    have hfree := Text.fresh_not_mem used base
    rcases Text.madeFrom_fresh used base with hbase | ⟨n, hnumber⟩
    · rw [h] at hbase hfree
      exact ⟨hbase.symm, hfree⟩
    · rw [h] at hnumber
      exact absurd (by simp [hnumber]) hr
  · rintro ⟨rfl, hfree⟩
    exact (Text.settles_iff.1 (.free hfree)).symm

variable {s : Scope} {asked : List Kind} {ps : List Projection} {i : Nat} {x : Projection}
  {kind : Kind}

/-- **The output column that gets an untouched name is the first that asks for it.** -/
theorem Scope.NamedInOrder.name_eq_iff (h : s.NamedInOrder asked ps) {r : String} (hr : Untouched r)
    (hx : ps[i]? = some x) (hkind : asked[i]? = some kind) :
    x.name = r ↔ s.wanted x.label kind i = r ∧
      ∀ (j : Nat) y k, j < i → ps[j]? = some y → asked[j]? = some k →
        s.wanted y.label k j ≠ r := by
  rw [h.name_eq i x kind hx hkind, fresh_eq_iff hr.not_mem, hr.identifier_eq_iff]
  refine and_congr_right fun _ => ⟨fun hfree j y k hj hy hk hwanted => ?_, fun hothers hused => ?_⟩
  · -- an earlier one that asks for the name has it, unless one before that has it
    refine hfree ?_
    have hbefore : ps.take j <+: ps.take i := List.take_prefix_take_left (by omega)
    by_cases hmem : r ∈ (ps.take j).map Projection.name
    · exact (hbefore.map Projection.name).subset hmem
    · have hname : y.name = r := by
        rw [h.name_eq j y k hy hk, fresh_eq_iff hr.not_mem, hr.identifier_eq_iff]
        exact ⟨hwanted, hmem⟩
      rw [← hname]
      refine List.mem_map_of_mem (List.mem_of_getElem? (i := j) ?_)
      rwa [List.getElem?_take_of_lt hj]
  · obtain ⟨y, hy, hname⟩ := List.mem_map.1 hused
    obtain ⟨j, hj, rfl⟩ := List.mem_take_iff_getElem.1 hy
    have hlength := h.length_eq
    have hk : asked[j]? = some asked[j] := List.getElem?_eq_getElem (by omega)
    have hy' : ps[j]? = some ps[j] := List.getElem?_eq_getElem (by omega)
    rw [h.name_eq j _ _ hy' hk, fresh_eq_iff hr.not_mem, hr.identifier_eq_iff] at hname
    exact hothers j _ _ (by omega) hy' hk hname.1

end Query

end SqlPipeline
