import Mathlib.Data.List.FinRange
import ProcedureAtlas.CallTree.Edges
import ProcedureAtlas.Proofs.Names

/-!
# Lookups without the index

A lookup asks the index for a bucket and then compares. Here it is tied to the plain search through
all entries: texts are the same up to case exactly when their lower-case forms are equal, on the
short route for ASCII texts too, and the bucket of a key holds the positions of all records that
have the key, in order.

An edge is the answer of a lookup that found one entry only. Therefore no two targets of any entries
share a display name.
-/

namespace ProcedureAtlas

set_option autoImplicit false

/-! ## Letter case -/

/-- Where every character has one letter as its lower-case form, the text is lowered letter by
letter. -/
theorem lowerFrom_of_single {form : Char → Char} (before text : Text)
    (single : ∀ character ∈ text,
      character ≠ capitalSigma ∧ lowerCharacter character = [form character]) :
    lowerFrom before text = text.map form := by
  induction text generalizing before with
  | nil => rfl
  | cons character rest ih =>
      obtain ⟨noSigma, lowered⟩ := single character List.mem_cons_self
      have behind := ih (character :: before) fun other member =>
        single other (List.mem_cons_of_mem _ member)
      rw [lowerFrom, if_neg noSigma, lowered, behind]
      rfl

private theorem lowerFrom_ascii (before text : Text) (ascii : text.all isAscii = true) :
    lowerFrom before text = text.map Char.toLower := by
  apply lowerFrom_of_single
  intro character member
  have here := List.all_eq_true.mp ascii character member
  refine ⟨?_, if_pos here⟩
  rintro rfl
  exact absurd here (by decide)

theorem Text.sameUpToCase_iff {left right : Text} :
    Text.sameUpToCase left right = true ↔ Text.lower left = Text.lower right := by
  rw [Text.sameUpToCase]
  split
  · rename_i ascii
    rw [Bool.and_eq_true] at ascii
    rw [Text.sameLetters, beq_iff_eq, Text.lower, Text.lower, lowerFrom_ascii [] left ascii.1,
      lowerFrom_ascii [] right ascii.2]
  · exact beq_iff_eq

theorem Identity.isMatch_iff_key {identity : Identity} {name schema : Text} :
    identity.isMatch name schema = true ↔ identity.key = Key.ofName schema name := by
  rw [Identity.isMatch, Bool.and_eq_true, Text.sameUpToCase_iff, Text.sameUpToCase_iff,
    Identity.key, Key.ofName, Key.ofName, Key.mk.injEq]
  exact And.comm

/-! ## The index -/

private theorem bucket_foldl_add (key : Key) (entries : List (Record × Nat)) (index : Index) :
    (entries.foldl Index.add index).bucket key =
      index.bucket key ++
        (entries.filter fun entry => entry.1.identity.key = key).map Prod.snd := by
  induction entries generalizing index with
  | nil => rw [List.foldl_nil, List.filter_nil, List.map_nil, List.append_nil]
  | cons entry entries ih =>
      rw [List.foldl_cons, ih, Index.add, Index.bucket, Std.TreeMap.getD_insert]
      by_cases same : entry.1.identity.key = key
      · rw [if_pos (Std.LawfulEqCmp.compare_eq_iff_eq.mpr same),
          List.filter_cons_of_pos (by simpa using same), List.map_cons, same, List.append_assoc]
        rfl
      · rw [if_neg fun equal => same (Std.LawfulEqCmp.compare_eq_iff_eq.mp equal),
          List.filter_cons_of_neg (by simpa using same)]
        rfl

theorem Index.bucket_ofRecords (records : List Record) (key : Key) :
    (Index.ofRecords records).bucket key =
      (records.zipIdx.filter fun entry => entry.1.identity.key = key).map Prod.snd := by
  rw [Index.ofRecords, bucket_foldl_add, Index.bucket, Std.TreeMap.getD_emptyc, List.nil_append]

private theorem zipIdx_eq_map_finRange {Value : Type} (values : List Value) :
    values.zipIdx =
      (List.finRange values.length).map fun index => (values.get index, index.val) := by
  apply List.ext_getElem
  · simp
  · intro index _ _
    simp

namespace Catalog

/-- The entries that match a written name and schema, found by going through all of them. -/
def candidates (catalog : Catalog) (name schema : Text) : List catalog.Entry :=
  (List.finRange catalog.records.length).filter fun entry =>
    (catalog.record entry).isMatch (Identifier.bare name) (Identifier.bare schema)

theorem mem_candidates {catalog : Catalog} {name schema : Text} {entry : catalog.Entry} :
    entry ∈ catalog.candidates name schema ↔
      (catalog.record entry).isMatch (Identifier.bare name) (Identifier.bare schema) = true := by
  rw [candidates, List.mem_filter]
  exact and_iff_right (List.mem_finRange entry)

theorem matching_eq_filter (catalog : Catalog) (name schema : Text) :
    catalog.matching name schema =
      (List.finRange catalog.records.length).filter fun entry =>
        (catalog.record entry).isMatch name schema := by
  have position (entry : catalog.Entry) : catalog.entry? entry.val = some entry :=
    dif_pos entry.isLt
  rw [matching, catalog.index_eq, Index.bucket_ofRecords, zipIdx_eq_map_finRange, List.filter_map,
    List.map_map, List.filterMap_map]
  have kept : catalog.entry? ∘ (Prod.snd ∘ fun index : catalog.Entry =>
      (catalog.records.get index, index.val)) = some := funext position
  rw [kept, List.filterMap_some, List.filter_filter]
  congr 1
  funext entry
  -- A record that matches has the key, so the bucket leaves none out.
  cases matched : (catalog.record entry).isMatch name schema with
  | false => rfl
  | true =>
      have key : (catalog.record entry).identity.key = Key.ofName schema name :=
        Identity.isMatch_iff_key.mp matched
      exact decide_eq_true key

theorem lookup_eq (catalog : Catalog) (name schema : Text) :
    catalog.lookup name schema = catalog.only (catalog.candidates name schema) := by
  rw [lookup, matching_eq_filter]
  rfl

variable {catalog : Catalog}

theorem candidates_of_lookup {name schema : Text} {entry : catalog.Entry}
    (found : catalog.lookup name schema = .ok (some entry)) :
    catalog.candidates name schema = [entry] := by
  rw [lookup_eq] at found
  match list : catalog.candidates name schema with
  | [] =>
      rw [list] at found
      cases found
  | [only] =>
      rw [list] at found
      cases found
      rfl
  | first :: second :: others =>
      rw [list] at found
      cases found

/-! ## Edges -/

theorem candidates_of_mem_edgesOf {label : Text} {references : List Reference}
    {targets : List catalog.Entry} (told : catalog.edgesOf label references = .ok targets)
    {target : catalog.Entry} (member : target ∈ targets) :
    ∃ name schema, catalog.candidates name schema = [target] := by
  induction references generalizing targets with
  | nil =>
      cases told
      cases member
  | cons reference references ih =>
      rw [edgesOf] at told
      split at told
      · split at told
        · cases told
        · exact ih told member
      · rename_i identity _
        cases found : catalog.lookupIdentity identity with
        | error failure =>
            rw [found] at told
            cases told
        | ok answer =>
            cases rest : catalog.edgesOf label references with
            | error failure =>
                rw [found, rest] at told
                cases told
            | ok later =>
                rw [found, rest] at told
                obtain rfl := Except.ok.inj told
                rcases List.mem_append.mp member with here | there
                · rw [Option.mem_toList.mp here] at found
                  exact ⟨_, _, candidates_of_lookup found⟩
                · exact ih rest there

theorem candidates_of_mem_edges {caller target : catalog.Entry} {targets : List catalog.Entry}
    (told : catalog.edges caller = .ok targets) (member : target ∈ targets) :
    ∃ name schema, catalog.candidates name schema = [target] :=
  candidates_of_mem_edgesOf told member

/-- An entry that some lookup found alone has a key of its own. -/
theorem eq_of_key_eq {name schema : Text} {target other : catalog.Entry}
    (alone : catalog.candidates name schema = [target])
    (same : (catalog.record other).identity.key = (catalog.record target).identity.key) :
    other = target := by
  have matched : target ∈ catalog.candidates name schema := by
    rw [alone]
    exact List.mem_singleton_self target
  have member : other ∈ catalog.candidates name schema := by
    rw [mem_candidates, Record.isMatch, Identity.isMatch_iff_key] at matched ⊢
    rw [same, matched]
  rw [alone] at member
  exact List.mem_singleton.mp member

theorem eq_of_display_eq {name schema : Text} {target other : catalog.Entry}
    (alone : catalog.candidates name schema = [target])
    (same : catalog.display other = catalog.display target) : other = target := by
  apply eq_of_key_eq alone
  rw [Record.identity_eq_of_display same]

end Catalog

end ProcedureAtlas
