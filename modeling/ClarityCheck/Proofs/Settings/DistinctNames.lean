import ClarityCheck.Proofs.Settings.Layers
import Mathlib.Data.String.Basic

/-!
# Layers without repeated names

No name occurs twice in a layer, wherever the layer comes from: the command line refuses options
that are given again, a later variable takes the place of an earlier one, and tables keep their keys
in order.

* `accounted_scan`: the options that a command line has given so far
* `once_flags`, `once_variables`, `once_content`: the layers in which no name occurs twice
-/

namespace ClarityCheck.CommandLine

variable {α ω : Type} {g : Grammar α ω} {p q : Progress α ω} {o : Valued α}

/-- Each value has been given by an option, and no option has been given twice. -/
structure Accounted (g : Grammar α ω) (p : Progress α ω) : Prop where
  pending : ∀ x, p.pending = some x → ∃ o ∈ g.options, ∃ value, x = .option o value
  given : ∃ os : List (Valued α), (∀ o ∈ os, o ∈ g.options) ∧ p.given = os.map Valued.shown ∧
    p.given.Nodup ∧
    List.Forall₂ (fun o a => ∃ bs, o.read bs = .ok a) os p.values

theorem accounted_beginning : Accounted g ({} : Progress α ω) where
  pending := fun _ h => by cases h
  given := ⟨[], by simp, rfl, List.nodup_nil, .nil⟩

theorem accounted_takeOption {value : Option Bytes} (h : Accounted g p) (ho : o ∈ g.options)
    (hq : p.takeOption g o value = (q, none)) : Accounted g q := by
  unfold Progress.takeOption at hq
  split at hq
  · cases hq
  · next value =>
    split at hq
    · cases hq
    · next hfresh =>
      cases hread : o.read value with
      | error e =>
        rw [hread] at hq
        cases hq
      | ok a =>
        rw [hread] at hq
        obtain ⟨os, hos, hgiven, hnodup, hvalues⟩ := h.given
        obtain rfl := (Prod.mk.inj hq).1
        refine ⟨h.pending, os ++ [o], ?_, ?_, ?_, ?_⟩
        · intro o' ho'
          rcases List.mem_append.1 ho' with ho' | ho'
          · exact hos o' ho'
          · exact List.mem_singleton.1 ho' ▸ ho
        · rw [List.map_append, ← hgiven]
          rfl
        · exact List.nodup_append.2 ⟨hnodup, List.nodup_singleton _, fun s hs t ht => by
            rw [List.mem_singleton.1 ht]
            exact fun he => hfresh (he ▸ hs)⟩
        · exact List.rel_append hvalues (.cons ⟨value, hread⟩ .nil)

theorem accounted_settled (h : Accounted g p) (hq : p.settled g = .ok q) : Accounted g q := by
  unfold Progress.settled Progress.settle at hq
  have hfree : Accounted g { p with pending := none, awaiting := false } :=
    ⟨fun x hx => (by cases hx), h.given⟩
  cases hpending : p.pending with
  | none =>
    rw [hpending] at hq
    cases hq
    exact hfree
  | some x =>
    obtain ⟨o, ho, value, rfl⟩ := h.pending x hpending
    simp only [hpending] at hq
    split at hq
    · next hsettle =>
      cases hq
      exact accounted_takeOption hfree ho hsettle
    · cases hq

theorem accounted_option {value : Option Bytes} (h : Accounted g p) (ho : o ∈ g.options)
    (hq : p.option g o value = .ok q) : Accounted g q := by
  unfold Progress.option at hq
  split at hq
  · cases hq
  · next p' hp' =>
    have hsettled := accounted_settled h hp'
    split at hq
    · cases hq
      refine ⟨fun x hx => ?_, hsettled.given⟩
      cases hx
      exact ⟨o, ho, none, rfl⟩
    · split at hq
      · next htake =>
        cases hq
        exact accounted_takeOption hsettled ho htake
      · cases hq

/-- Where a grammar has no operand, a plain word is a value of an option. -/
theorem accounted_plain {w : Bytes} (hoperand : g.operand = none) (h : Accounted g p)
    (hq : p.plain g w = .ok q) : Accounted g q := by
  unfold Progress.plain at hq
  split at hq
  · next o value _ hpending =>
    cases hq
    obtain ⟨o', ho', value', hx⟩ := h.pending _ hpending
    cases hx
    refine ⟨fun x hx => ?_, h.given⟩
    cases hx
    exact ⟨o, ho', some w, rfl⟩
  · unfold Progress.operandWord at hq
    rw [hoperand, ite_self] at hq
    cases hq

theorem accounted_word {w : Bytes} {rest : List Bytes} (hoperand : g.operand = none)
    (h : Accounted g p) (hq : p.word g w rest = .ok q) : Accounted g q := by
  unfold Progress.word at hq
  split at hq
  · cases hq
    exact ⟨h.pending, h.given⟩
  · unfold Progress.letters at hq
    split at hq
    · split at hq
      · next ho => exact accounted_option h (List.mem_of_find?_eq_some ho) hq
      · split at hq <;> cases hq
    · cases hq
  · exact accounted_plain hoperand h hq
  · split at hq
    · next ho => exact accounted_option h (List.mem_of_find?_eq_some ho) hq
    · cases hq
    · split at hq <;> cases hq

/-- Reading words keeps account of the options. -/
theorem accounted_scan {words : List Bytes} {found : Option (String × List Bytes)}
    (hoperand : g.operand = none) (h : Accounted g p) (hq : scan g p words = .ok (q, found)) :
    Accounted g q := by
  induction words generalizing p with
  | nil =>
    cases hq
    exact h
  | cons w words ih =>
    rw [scan] at hq
    split at hq
    · cases hq
      exact h
    · split at hq
      · cases hq
      · next p' hp' =>
        refine ih ?_ hq
        split at hp'
        · unfold Progress.operandWord at hp'
          rw [hoperand, ite_self] at hp'
          cases hp'
        · exact accounted_word hoperand h hp'

theorem accounted_parse {words : List Bytes} (hoperand : g.operand = none)
    (hq : g.parse words = .ok q) :
    Accounted g q := by
  unfold Grammar.parse at hq
  split at hq
  · cases hq
  · next hscan => exact accounted_settled (accounted_scan hoperand accounted_beginning hscan) hq

end ClarityCheck.CommandLine

namespace ClarityCheck.Toml

open Settings (map_eq_ok_iff)

/-! ## Tables -/

/-- The keys of a table go up. -/
def Ordered (entries : Entries) : Prop := (entries.map (·.1)).Pairwise (· < ·)

/-- A change under a key leaves the other keys in their order. -/
theorem ordered_alter {change : Option Node → Checked (Option Node)} {key : String}
    {entries after : Entries} (h : Ordered entries)
    (hafter : Entries.alter change key entries = .ok after) :
    Ordered after ∧ ∀ k ∈ after.map (·.1), k = key ∨ k ∈ entries.map (·.1) := by
  -- Whatever is put there, it stands in front of larger keys.
  have hput (n : Option Node) {rest : Entries} (hrest : Ordered rest)
    (hkey : ∀ k ∈ rest.map (·.1), key < k) :
      Ordered ((n.map (key, ·)).toList ++ rest) ∧
        ∀ k ∈ ((n.map (key, ·)).toList ++ rest).map (·.1), k = key ∨ k ∈ rest.map (·.1) := by
    cases n with
    | none => exact ⟨hrest, fun k hk => .inr hk⟩
    | some n => exact ⟨List.pairwise_cons.2 ⟨hkey, hrest⟩, fun k hk => List.mem_cons.1 hk⟩
  induction entries generalizing after with
  | nil =>
    obtain ⟨n, -, rfl⟩ := map_eq_ok_iff.1 hafter
    have := hput n h fun k hk => by cases hk
    rwa [List.append_nil] at this
  | cons entry rest ih =>
    obtain ⟨k, node⟩ := entry
    obtain ⟨hfirst, hrest⟩ := List.pairwise_cons.1 h
    rw [Entries.alter] at hafter
    split at hafter
    · next hk =>
      obtain ⟨n, -, rfl⟩ := map_eq_ok_iff.1 hafter
      obtain ⟨hordered, hkeys⟩ := hput n hrest (hk ▸ hfirst)
      exact ⟨hordered, fun j hj => (hkeys j hj).imp_right (List.mem_cons_of_mem _)⟩
    · next hne =>
      split at hafter
      · next hlt =>
        obtain ⟨n, -, rfl⟩ := map_eq_ok_iff.1 hafter
        refine hput n h fun j hj => ?_
        rcases List.mem_cons.1 hj with rfl | hj
        · exact hlt
        · exact lt_trans hlt (hfirst j hj)
      · next hnlt =>
        obtain ⟨rest', hrest', rfl⟩ := map_eq_ok_iff.1 hafter
        obtain ⟨hordered, hkeys⟩ := ih hrest hrest'
        have hkey : k < key := lt_of_le_of_ne (not_lt.1 hnlt) hne
        refine ⟨List.pairwise_cons.2 ⟨fun j hj => ?_, hordered⟩, fun j hj => ?_⟩
        · rcases hkeys j hj with rfl | hj
          · exact hkey
          · exact hfirst j hj
        · rcases List.mem_cons.1 hj with rfl | hj
          · exact .inr List.mem_cons_self
          · exact (hkeys j hj).imp_right (List.mem_cons_of_mem _)

/-- Of a table only one key is changed by what happens below it. -/
theorem ordered_descend {dotted origin : Bool} {change : Bool → Entries → Checked Entries}
    (hchange : ∀ o entries after, Ordered entries → change o entries = .ok after → Ordered after)
    {path : List Entries.Part} {entries after : Entries} (h : Ordered entries)
    (hafter : Entries.descend dotted change origin path entries = .ok after) : Ordered after := by
  cases path with
  | nil => exact hchange origin entries after h hafter
  | cons part path => exact (ordered_alter h hafter).1

theorem ordered_insert {path : List Entries.Part} {key : Entries.Part} {value : Node}
    {entries after : Entries} (h : Ordered entries)
    (hafter : Entries.insert path key value entries = .ok after) : Ordered after := by
  refine ordered_descend (fun o inner inner' hinner hinner' => ?_) h hafter
  split at hinner'
  · cases hinner'
  · exact (ordered_alter hinner hinner').1

/-- The keys of the document's own table go up. -/
structure Progress.Ordered (p : Progress) : Prop where
  root : Toml.Ordered p.root
  current : p.header = none → Toml.Ordered p.current

theorem ordered_close {p : Progress} {after : Entries} (h : p.Ordered)
    (hafter : p.close = .ok after) :
    Ordered after := by
  unfold Progress.close at hafter
  split at hafter
  · next hheader =>
    cases hafter
    exact h.current hheader
  · exact ordered_descend (fun o inner inner' hinner hinner' => (ordered_alter hinner hinner').1)
      h.root hafter

theorem ordered_openTable {header : Header} {root : Entries} {p : Progress} (h : Ordered root)
    (hp : Progress.openTable header root = .ok p) : p.Ordered := by
  unfold Progress.openTable at hp
  split at hp
  · cases hp
    exact ⟨h, fun hnone => by cases hnone⟩
  · obtain ⟨root', hroot, rfl⟩ := map_eq_ok_iff.1 hp
    refine ⟨?_, fun hnone => by cases hnone⟩
    exact ordered_descend
      (fun o inner inner' hinner hinner' => (ordered_alter hinner hinner').1) h hroot

theorem ordered_add {p q : Progress} {e : Expression} (h : p.Ordered) (hq : p.add e = .ok q) :
    q.Ordered := by
  cases e with
  | entry key v =>
    rw [Progress.add] at hq
    split at hq
    · cases hq
    · split at hq
      · cases hq
      · obtain ⟨current, hcurrent, rfl⟩ := map_eq_ok_iff.1 hq
        exact ⟨h.root, fun hnone => ordered_insert (h.current hnone) hcurrent⟩
  | header many key =>
    rw [Progress.add] at hq
    split at hq
    · cases hq
    · next root hroot =>
      split at hq
      · cases hq
      · exact ordered_openTable (ordered_close h hroot) hq

theorem ordered_addAll {es : List Expression} {p : Progress} {after : Entries} (h : p.Ordered)
    (hafter : Progress.addAll es p = .ok after) : Ordered after := by
  induction es generalizing p with
  | nil => exact ordered_close h hafter
  | cons e es ih =>
    rw [Progress.addAll] at hafter
    split at hafter
    · cases hafter
    · next q hq => exact ih (ordered_add h hq) hafter

theorem map_entriesJson {entries : Entries} {members : List (String × Json)}
    (h : Node.entriesJson entries = .ok members) : members.map (·.1) = entries.map (·.1) := by
  induction entries generalizing members with
  | nil =>
    cases h
    rfl
  | cons entry rest ih =>
    obtain ⟨key, node⟩ := entry
    rw [Node.entriesJson] at h
    split at h
    · cases h
    · obtain ⟨members', hmembers, rfl⟩ := map_eq_ok_iff.1 h
      exact congrArg _ (ih hmembers)

/-- The members of the object that a document writes come from a table with its keys in order. -/
theorem entries_of_ofString {source : String} {members : List (String × Json)}
    (h : ofString source = .ok members) :
    ∃ entries, Ordered entries ∧ Node.entriesJson entries = .ok members := by
  unfold ofString at h
  cases hread : readTokens (documentTokens source.toList) with
  | error f =>
    rw [hread] at h
    cases h
  | ok members' =>
    rw [hread] at h
    cases h
    unfold readTokens at hread
    split at hread
    · cases hread
    · split at hread
      · cases hread
      · next entries hentries =>
        have hbeginning : Progress.beginning.Ordered := ⟨.nil, fun _ => .nil⟩
        exact ⟨entries, ordered_addAll hbeginning hentries, hread⟩

/-- A document gives no name twice. -/
theorem nodup_ofString {source : String} {members : List (String × Json)}
    (h : ofString source = .ok members) :
    (members.map (·.1)).Nodup := by
  obtain ⟨entries, hordered, hmembers⟩ := entries_of_ofString h
  rw [map_entriesJson hmembers]
  exact hordered.imp ne_of_lt

end ClarityCheck.Toml

namespace ClarityCheck.Settings

open CommandLine

/-! ## Flags -/

/-- Only the option for a setting gives a value for it. -/
theorem shown_of_read {tool : String} {o : Valued Flags.Flag}
    (ho : o ∈ (Flags.grammar tool).options) {bs : Bytes} {key : Key} {v : Json}
    (h : o.read bs = .ok (.setting key v)) : o = Flags.option key := by
  rcases List.mem_cons.1 ho with rfl | ho
  · simp only [Flags.fileValued] at h
    split at h <;> cases h
  · obtain ⟨key', -, rfl⟩ := List.mem_map.1 ho
    simp only [Flags.option] at h
    split at h
    · cases h
    · split at h <;> cases h
      rfl

theorem exists_of_forall₂ {β γ : Type} {r : β → γ → Prop} {bs : List β} {cs : List γ}
    (h : List.Forall₂ r bs cs) {c : γ} (hc : c ∈ cs) : ∃ b ∈ bs, r b c := by
  induction h with
  | nil => cases hc
  | @cons b c' bs cs hbc _ ih =>
    rcases List.mem_cons.1 hc with rfl | hc
    · exact ⟨b, List.mem_cons_self, hbc⟩
    · obtain ⟨b', hb', hr⟩ := ih hc
      exact ⟨b', List.mem_cons_of_mem _ hb', hr⟩

/-- A command line gives no setting twice. -/
theorem once_flags {tool : String} {words : List Bytes} {flags : List Flags.Flag}
    (h : readFlags tool words = .ok flags) : (Flags.layer flags).Once := by
  obtain ⟨p, hp, rfl⟩ : ∃ p, (Flags.grammar tool).parse words = .ok p ∧ p.values = flags := by
    unfold readFlags at h
    split at h <;> cases h
    exact ⟨_, by assumption, rfl⟩
  obtain ⟨os, hos, hgiven, hnodup, hvalues⟩ := (accounted_parse rfl hp).given
  rw [hgiven] at hnodup
  clear hp hgiven
  revert hvalues
  generalize p.values = values
  intro hvalues
  induction hvalues with
  | nil => exact List.nodup_nil
  | @cons o a os values hread hvalues ih =>
    rw [List.forall_mem_cons] at hos
    rw [List.map_cons, List.nodup_cons] at hnodup
    have hrest := ih hos.2 hnodup.2
    cases a with
    | file path => exact hrest
    | setting key v =>
      refine List.nodup_cons.2 ⟨fun hmem => hnodup.1 ?_, hrest⟩
      obtain ⟨bs, hbs⟩ := hread
      -- Another value for the same setting would have come from the same option.
      obtain ⟨member, hmember, hname⟩ := List.mem_map.1 hmem
      obtain ⟨a', ha', hflag⟩ := List.mem_filterMap.1 hmember
      obtain ⟨o', ho', bs', hbs'⟩ := exists_of_forall₂ hvalues ha'
      cases a' with
      | file path => cases hflag
      | setting key' v' =>
        cases hflag
        obtain rfl : key' = key := Key.name_inj hname
        rw [shown_of_read hos.1 hbs, ← shown_of_read (hos.2 o' ho') hbs']
        exact List.mem_map_of_mem ho'

/-! ## Variables -/

theorem Layer.map_put (l : Layer) (name : String) (v : Json) : (l.put name v).map (·.1) =
    if name ∈ l.map (·.1) then l.map (·.1) else l.map (·.1) ++ [name] := by
  induction l with
  | nil => rfl
  | cons m l ih =>
    obtain ⟨n, w⟩ := m
    rw [Layer.put]
    by_cases hn : n = name
    · simp [hn]
    · rw [if_neg hn, List.map_cons, ih]
      by_cases hmem : name ∈ l.map (·.1)
      · simp [hmem, Ne.symm hn]
      · rw [if_neg hmem, if_neg]
        · rfl
        · rintro (_ | ⟨_, hmem'⟩)
          · exact hn rfl
          · exact hmem hmem'

theorem Layer.once_put {l : Layer} (h : l.Once) (name : String) (v : Json) :
    (l.put name v).Once := by
  rw [Layer.Once, Layer.map_put]
  split
  · exact h
  · next hname =>
    refine List.nodup_append.2 ⟨h, List.nodup_singleton _, fun s hs t ht => ?_⟩
    rw [List.mem_singleton.1 ht]
    exact fun he => hname (he ▸ hs)

/-- What one more variable does. -/
theorem layer_concat (vs : List Variable) (v : Variable) : Variables.layer (vs ++ [v]) =
    match Variables.path? v.name with
    | some (name :: rest) =>
      (Variables.layer vs).put name (Variables.nested rest (Variables.read v.value))
    | _ => Variables.layer vs := by
  unfold Variables.layer
  cases hpath : Variables.path? v.name with
  | none => simp only [List.foldl_append, List.foldl_cons, List.foldl_nil, hpath]
  | some path =>
    cases path <;> simp only [List.foldl_append, List.foldl_cons, List.foldl_nil, hpath]

/-- Variables give no setting twice. -/
theorem once_variables (vs : List Variable) : (Variables.layer vs).Once := by
  induction vs using List.reverseRecOn with
  | nil => exact List.nodup_nil
  | append_singleton vs v ih =>
    rw [layer_concat]
    split
    · exact Layer.once_put ih _ _
    · exact ih

/-! ## Configuration files -/

theorem ofString_of_read {files : Files} {p : Path} {c : Source.Content}
    (h : Source.read files p = .ok c) :
    ∃ text, Toml.ofString text = .ok c.layer := by
  unfold Source.read at h
  simp only at h
  split at h
  · cases h
  · split at h
    · cases h
    · next text _ =>
      split at h
      · next hmembers =>
        cases h
        exact ⟨String.ofList text, hmembers⟩
      · cases h

theorem ofString_of_firstReadable {files : Files} {ps : List Path} {errors : List Source.FileError}
    {c : Source.Content} (h : Source.firstReadable files ps = (errors, some c)) :
    ∃ text, Toml.ofString text = .ok c.layer := by
  induction ps generalizing errors with
  | nil => cases h
  | cons p ps ih =>
    rw [Source.firstReadable] at h
    split at h
    · split at h
      · next hread =>
        cases h
        exact ofString_of_read hread
      · obtain ⟨-, hrest⟩ := Prod.mk.inj h
        exact ih (Prod.ext rfl hrest)
    · exact ih h

/-- The content of a configuration file is that of a document, unless there is no file. -/
theorem ofString_of_content {files : Files} {e : Environment} {required : Option Path}
    {c : Source.Content} (h : Source.content files e required = .ok c) :
    c.layer = [] ∨ ∃ text, Toml.ofString text = .ok c.layer := by
  unfold Source.content at h
  split at h
  · next p =>
    have hread := mapError_eq_ok_iff.1 h
    unfold Source.readRequired at hread
    split at hread
    · exact .inr (ofString_of_read hread)
    · cases hread
  · split at h
    · next hfirst =>
      cases h
      exact .inr (ofString_of_firstReadable hfirst)
    · cases h
      exact .inl rfl
    · cases h

/-- A configuration file gives no setting twice. -/
theorem once_content {files : Files} {e : Environment} {required : Option Path} {c : Source.Content}
    (h : Source.content files e required = .ok c) : c.layer.Once := by
  rcases ofString_of_content h with hempty | ⟨text, htext⟩
  · rw [hempty]
    exact List.nodup_nil
  · exact Toml.nodup_ofString htext

end ClarityCheck.Settings
