import ClarityCheck.Contract
import ClarityCheck.Proofs.Toml.PlainDocument
import ClarityCheck.Workspace.Manifest
import Mathlib

/-!
# Manifests as TOML

A manifest puts the name of a contract into the key of a table and into two strings, in each case
without quoting it. A safe name needs none.

* `addAll_manifest`: the expressions of a manifest make up the table of the project and that of the
  contract
* `ofString_manifest`: what a manifest reads as
-/

namespace ClarityCheck.Workspace

open Toml

/-- The path of the contract as the manifest names it. -/
def contractPath (name : String) : String := contractsDirectory ++ "/" ++ contractFile name

/-- The lines of a manifest. -/
def manifestLines (name : String) : List Line :=
  [.header "project" [], .entry "name" (.string name), .entry "authors" .empty,
    .entry "telemetry" (.boolean false), .entry "cache_dir" (.string compilerCache), .empty,
    .header "contracts" [name], .entry "path" (.string (contractPath name))]

theorem toList_manifest (name : String) :
    (manifest name).toList = documentText (manifestLines name) := by
  unfold documentText manifestLines contractPath manifest contractFile contractsDirectory
    compilerCache
  simp [joined, Line.pieces, keyPieces, Value.pieces, truthName]

/-- The members that a manifest has as TOML. -/
def manifestMembers (name : String) : List (String × Json) :=
  [("contracts", .obj [(name, .obj [("path", .str (contractPath name))])]),
    ("project", .obj [("authors", .arr []), ("cache_dir", .str compilerCache), ("name", .str name),
      ("telemetry", .bool false)])]

/-- The table of a project. -/
def projectTable (name : String) : Entries :=
  [("authors", .array []), ("cache_dir", .scalar (.string compilerCache)),
    ("name", .scalar (.string name)), ("telemetry", .scalar (.boolean false))]

/-- The table of a contract. -/
def contractTable (name : String) : Entries := [("path", .scalar (.string (contractPath name)))]

/-- The tables of a manifest, with what stands under `contracts`. -/
def manifestTables (name : String) (contracts : Entries) : Entries :=
  [("contracts", .table (.passing false) contracts),
    ("project", .table .header (projectTable name))]

/-! ## The steps of the reader -/

theorem add_projectHeader {w : Word} (hw : w.Spells "project") :
    Progress.beginning.add (.header false [w]) =
      .ok ⟨[], some ⟨false, [], ⟨"project", w⟩⟩, []⟩ := by
  simp only [Progress.add, readParts, name_of_spells hw (by decide)]
  rfl

theorem addAll_projectEntries {name : String} (hp : IsPlain name) {w₁ w₂ w₃ w₄ : Word}
    {x₁ x₂ x₃ x₄ : Literal} (hw₁ : w₁.Spells "name") (hx₁ : (Value.string name).Written x₁)
    (hw₂ : w₂.Spells "authors") (hx₂ : Value.empty.Written x₂) (hw₃ : w₃.Spells "telemetry")
    (hx₃ : (Value.boolean false).Written x₃) (hw₄ : w₄.Spells "cache_dir")
    (hx₄ : (Value.string compilerCache).Written x₄) (h : Option Header) (rest : List Expression) :
    Progress.addAll (.entry [w₁] x₁ :: .entry [w₂] x₂ :: .entry [w₃] x₃ :: .entry [w₄] x₄ :: rest)
      ⟨[], h, []⟩ = Progress.addAll rest ⟨[], h, projectTable name⟩ := by
  have hcache : IsPlain compilerCache := by decide
  rw [Progress.addAll, add_entry hw₁ (by decide) hx₁ hp rfl]
  dsimp only
  rw [Progress.addAll, add_entry hw₂ (by decide) hx₂ trivial rfl]
  dsimp only
  rw [Progress.addAll, add_entry hw₃ (by decide) hx₃ trivial rfl]
  dsimp only
  rw [Progress.addAll, add_entry hw₄ (by decide) hx₄ hcache rfl]
  rfl

/-- The header of a contract closes the table of the project and leads through a new one. -/
theorem add_contractHeader {name : String} (hn : IsBare name) {w u v : Word}
    (hu : u.Spells "contracts") (hv : v.Spells name) :
    (⟨[], some ⟨false, [], ⟨"project", w⟩⟩, projectTable name⟩ : Progress).add
      (.header false [u, v])
      = .ok ⟨manifestTables name [], some ⟨false, [⟨"contracts", u⟩], ⟨name, v⟩⟩, []⟩ := by
  have hclose : (⟨[], some ⟨false, [], ⟨"project", w⟩⟩, projectTable name⟩ : Progress).close
      = .ok [("project", .table .header (projectTable name))] := rfl
  have hopen : Progress.openTable ⟨false, [⟨"contracts", u⟩], ⟨name, v⟩⟩
        [("project", .table .header (projectTable name))]
      = .ok ⟨manifestTables name [], some ⟨false, [⟨"contracts", u⟩], ⟨name, v⟩⟩, []⟩ := by
    simp only [Progress.openTable, Entries.descend]
    rfl
  simp only [Progress.add, readParts, name_of_spells hu (by decide), name_of_spells hv hn, hclose]
  exact hopen

theorem close_contract (name : String) (u v : Word) :
    (⟨manifestTables name [], some ⟨false, [⟨"contracts", u⟩], ⟨name, v⟩⟩, contractTable name⟩ :
      Progress).close =
        .ok (manifestTables name [(name, .table .header (contractTable name))]) := by
  simp [Progress.close, Entries.descend, Entries.alter, manifestTables, Except.map]

/-- The expressions of a manifest make up its tables. -/
theorem addAll_manifest {name : String} (hn : IsBare name) (hp : IsPlain name)
    (hpath : IsPlain (contractPath name)) {es : List Expression}
    (h : Written (manifestLines name) es) :
    Progress.addAll es .beginning
      = .ok (manifestTables name [(name, .table .header (contractTable name))]) := by
  obtain ⟨w₁, _, _, rfl, hw₁, hws, h₁⟩ := h.of_header
  cases hws
  obtain ⟨w₂, x₂, _, rfl, hw₂, hx₂, h₂⟩ := h₁.of_entry
  obtain ⟨w₃, x₃, _, rfl, hw₃, hx₃, h₃⟩ := h₂.of_entry
  obtain ⟨w₄, x₄, _, rfl, hw₄, hx₄, h₄⟩ := h₃.of_entry
  obtain ⟨w₅, x₅, _, rfl, hw₅, hx₅, h₅⟩ := h₄.of_entry
  obtain ⟨w₆, _, _, rfl, hw₆, hws, h₆⟩ := h₅.of_empty.of_header
  obtain _ | ⟨hw₇, hws⟩ := hws
  cases hws
  obtain ⟨w₈, x₈, _, rfl, hw₈, hx₈, h₈⟩ := h₆.of_entry
  obtain rfl := h₈.of_nil
  rw [Progress.addAll, add_projectHeader hw₁]
  dsimp only
  rw [addAll_projectEntries hp hw₂ hx₂ hw₃ hx₃ hw₄ hx₄ hw₅ hx₅, Progress.addAll,
    add_contractHeader hn hw₆ hw₇]
  dsimp only
  rw [Progress.addAll, add_entry hw₈ (by decide) hx₈ hpath rfl]
  exact close_contract name _ _

/-! ## Safe names -/

/-- A safe name consists of small letters, digits and hyphens. -/
theorem toNat_of_isSafe {name : List Char} (h : Contract.IsSafe name) {c : Char} (hc : c ∈ name) :
    97 ≤ c.toNat ∧ c.toNat ≤ 122 ∨ 48 ≤ c.toNat ∧ c.toNat ≤ 57 ∨ c = '-' := by
  have := h.chars c hc
  simp only [Contract.isNameChar, Bool.or_eq_true, Bool.and_eq_true, decide_eq_true_eq] at this
  obtain (⟨h₁, h₂⟩ | ⟨h₁, h₂⟩) | rfl := this
  · exact .inl ⟨h₁, h₂⟩
  · exact .inr (.inl ⟨h₁, h₂⟩)
  · exact .inr (.inr rfl)

theorem isBare_of_isSafe {name : String} (h : Contract.IsSafe name.toList) : IsBare name := by
  refine ⟨h.ne_nil, fun c hc => ?_⟩
  simp only [Word.isNameChar, Char.isAlphanum, Char.isAlpha, Char.isLower, Char.isDigit,
    Bool.or_eq_true, Bool.and_eq_true, decide_eq_true_eq, ge_iff_le, UInt32.le_iff_toNat_le,
      beq_iff_eq]
  rcases toNat_of_isSafe h hc with hl | hd | rfl
  · exact .inl (.inl (.inl (.inr hl)))
  · exact .inl (.inl (.inr hd))
  · exact .inl (.inr rfl)

theorem isPlain_of_isSafe {name : String} (h : Contract.IsSafe name.toList) : IsPlain name := by
  intro c hc
  have hcode := toNat_of_isSafe h hc
  refine ⟨?_, ?_, ?_⟩
  · have : 0x20 ≤ c.toNat ∧ c.toNat ≠ 0x7F := by
      rcases hcode with hl | hd | rfl
      · omega
      · omega
      · decide
    simp [Word.isPlain, this]
  all_goals
    rintro rfl
    revert hcode
    decide

theorem isPlain_append {s t : String} (hs : IsPlain s) (ht : IsPlain t) : IsPlain (s ++ t) := by
  intro c hc
  rw [String.toList_append, List.mem_append] at hc
  exact hc.elim (hs c) (ht c)

theorem isPlain_contractPath {name : String} (h : Contract.IsSafe name.toList) :
    IsPlain (contractPath name) := by
  have hdirectory : IsPlain (contractsDirectory ++ "/") := by decide
  have hending : IsPlain ".clar" := by decide
  exact isPlain_append hdirectory (isPlain_append (isPlain_of_isSafe h) hending)

/-! ## Reading a manifest -/

theorem isPlain_manifestLines {name : String} (h : Contract.IsSafe name.toList) :
    ∀ l ∈ manifestLines name, l.IsPlain := by
  have hcache : IsPlain compilerCache := by decide
  have hname := isBare_of_isSafe h
  simp only [manifestLines, List.forall_mem_cons, Line.IsPlain, Value.IsPlain]
  exact ⟨⟨(by decide), by simp⟩, ⟨(by decide), isPlain_of_isSafe h⟩,
    ⟨(by decide), trivial⟩, ⟨(by decide), trivial⟩,
    ⟨(by decide), hcache⟩, trivial, ⟨(by decide), hname, by simp⟩,
    ⟨(by decide), isPlain_contractPath h⟩, by simp⟩

/-- The manifest of a project with a safe name has the members that it should have. -/
theorem ofString_manifest {name : String} (h : Contract.IsSafe name.toList) :
    Toml.ofString (manifest name) = .ok (manifestMembers name) := by
  obtain ⟨es, hes, hw⟩ := ofTokens_documentText (isPlain_manifestLines h)
  rw [Toml.ofString, toList_manifest, readTokens, hes]
  dsimp only
  rw [addAll_manifest (isBare_of_isSafe h) (isPlain_of_isSafe h) (isPlain_contractPath h) hw]
  rfl

end ClarityCheck.Workspace
