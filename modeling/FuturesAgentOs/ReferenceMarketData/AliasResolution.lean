import FuturesAgentOs.PyModel.Revisions
import FuturesAgentOs.ReferenceMarketData.AliasRegistry

namespace FuturesAgentOs

open PyModel

/-!
# Aliases are resolved without ambiguity

Construction compares the intervals of every two mappings of one alias.  Half-open intervals that
do not overlap have no moment in common, so at most one mapping is in effect at any time, whatever
is visible then.

* `resolve_unique` — no resolution is ambiguous, and what a tradeable one returns.
-/

namespace InstrumentRegistryFields

variable {f : InstrumentRegistryFields} {normalized : Text} {asOf : RecordedAt} {m : AliasMapping}

theorem mem_visible : m ∈ f.visible normalized asOf ↔ m ∈ f.aliases
    ∧ m.fields.aliasName = normalized ∧ m.fields.effective.contains asOf = true
    ∧ m.fields.provenance.isVisibleAt asOf = true := by
  simp only [visible, effective, candidates, List.mem_filter, decide_eq_true_eq, and_assoc]

theorem visible_of_active (h : m ∈ f.active normalized asOf) : m ∈ f.visible normalized asOf :=
  List.mem_of_mem_filter (List.mem_of_mem_filter h)

end InstrumentRegistryFields

namespace InstrumentRegistry

open InstrumentRegistryFields

variable [Hashlib] {host : CalendarHost} (r : InstrumentRegistry host) (normalized : Text)
  (asOf : RecordedAt)

theorem checked : r.fields.registryId.nspace = "instrument_registry" ∧ 1 ≤ r.fields.releaseVersion
    ∧ r.fields.aliases.Pairwise (fun left right => aliasesOverlap left right = false)
    ∧ r.fields.expectedContentSha256.IsHexDigest := by
  have h := r.valid
  simp only [InstrumentRegistryFields.postInit, check_bind_eq_ok, require_eq_ok, requireVersion,
    rejectOverlappingAliases] at h
  obtain ⟨hnamespace, hversion, -, hoverlaps, h⟩ := h
  obtain ⟨actual, hactual, h⟩ := Py.of_bind h
  refine ⟨hnamespace, hversion, hoverlaps, ?_⟩
  rw [require_eq_ok.mp h]
  exact isHexDigest_of_canonicalSha256 hactual

/-- **At most one mapping of an alias is in effect and visible.** -/
theorem length_visible : (r.fields.visible normalized asOf).length ≤ 1 := by
  obtain ⟨-, -, hoverlaps, -⟩ := r.checked
  refine length_le_one_of_pairwise (R := fun left right => aliasesOverlap left right = false)
    (((hoverlaps.filter _).filter _).filter _) fun left hleft right hright hapart => ?_
  obtain ⟨-, hleftAlias, hleftContains, -⟩ := mem_visible.mp hleft
  obtain ⟨-, hrightAlias, hrightContains, -⟩ := mem_visible.mp hright
  rw [aliasesOverlap, hleftAlias, hrightAlias, decide_eq_true rfl, Bool.true_and,
    EffectiveInterval.overlaps_of_contains hleftContains hrightContains] at hapart
  cases hapart

theorem length_active : (r.fields.active normalized asOf).length ≤ 1 :=
  Nat.le_trans (List.Sublist.length_le (List.filter_sublist.trans List.filter_sublist))
    (r.length_visible normalized asOf)

theorem exists_resolution (m : AliasMapping) :
    ∃ resolution, Frozen.make (ResolutionFields.mk m.fields.target m.fields.aliasName
      r.fields.registryId r.fields.releaseVersion r.fields.expectedContentSha256 m.fields.version
        m.fields.provenance) = .ok resolution := by
  obtain ⟨hnamespace, hversion, -, hdigest⟩ := r.checked
  have hm : m.fields.postInit = .ok () := m.valid
  simp only [AliasMappingFields.postInit, check_bind_eq_ok, requireAlias, requireVersion,
    require_eq_ok] at hm
  apply Frozen.exists_make_iff.mpr
  show ResolutionFields.postInit _ = .ok ()
  simp only [ResolutionFields.postInit, check_bind_eq_ok, requireAlias, requireVersion,
    requireDigest, require_eq_ok]
  exact ⟨hm.1, hnamespace, hversion, hm.2, hdigest⟩

variable (identifier : Text)

def resolve : Py ResolutionOutcome := r.fields.resolve asOf identifier

def resolveTradeable : Py TradeableOutcome := r.fields.resolveTradeable asOf identifier

/-- **A resolution returns**, and is not ambiguous. -/
theorem exists_resolve : ∃ outcome, r.resolve asOf identifier = .ok outcome
    ∧ ∀ message, outcome ≠ .failure ⟨.INSTRUMENT_AMBIGUOUS, message⟩ := by
  unfold resolve InstrumentRegistryFields.resolve
  split
  · refine ⟨_, rfl, fun message h => ?_⟩
    cases congrArg Failure.reasonCode (ResolutionOutcome.failure.inj h)
  · rename_i normalized hnormalized
    split
    · -- one mapping is active
      rename_i m hactive
      obtain ⟨resolution, hresolution⟩ := r.exists_resolution m
      refine ⟨.resolution resolution, ?_, fun message h => by cases h⟩
      rw [hresolution, Py.ok_bind]
    · refine ⟨_, rfl, fun message h => ?_⟩
      have hfailure := congrArg Failure.reasonCode (ResolutionOutcome.failure.inj h)
      unfold notUnique at hfailure
      rw [if_neg (Nat.not_lt.mpr (r.length_active normalized asOf))] at hfailure
      split_ifs at hfailure

/-- **The mapping behind a resolution.** -/
theorem resolve_eq_resolution {resolution : Resolution}
    (h : r.resolve asOf identifier = .ok (.resolution resolution)) :
    ∃ m ∈ r.fields.active resolution.fields.aliasName asOf,
      normalizeAlias identifier = some resolution.fields.aliasName
        ∧ resolution.fields.target = m.fields.target := by
  unfold resolve InstrumentRegistryFields.resolve at h
  split at h
  · cases Except.ok.inj h
  · rename_i normalized hnormalized
    split at h
    · rename_i m hactive
      have hmem : m ∈ r.fields.active normalized asOf := hactive ▸ List.mem_cons_self
      obtain ⟨-, hname, -⟩ := mem_visible.mp (visible_of_active hmem)
      obtain ⟨made, hmade, h⟩ := Py.of_bind h
      obtain rfl := ResolutionOutcome.resolution.inj (Except.ok.inj h)
      rw [Frozen.make_eq_ok.mp hmade]
      exact ⟨m, by rw [hname]; exact hmem, by rw [hnormalized, hname], rfl⟩
    · cases Except.ok.inj h

/-- **Aliases are resolved without ambiguity.**  In every release that was accepted at most one
mapping of an alias is in effect and visible at a time, no resolution is ambiguous, and the
instrument of a tradeable one is the target of a mapping of the alias that is in effect and visible,
and is listed on the exchange that the alias names. -/
theorem resolve_unique :
    (r.fields.aliases.filter (fun m => m.fields.aliasName = normalized
        ∧ m.fields.effective.contains asOf = true
        ∧ m.fields.provenance.isVisibleAt asOf = true)).length ≤ 1
      ∧ (∃ outcome, r.resolve asOf identifier = .ok outcome
        ∧ ∀ message, outcome ≠ .failure ⟨.INSTRUMENT_AMBIGUOUS, message⟩)
      ∧ ∀ instrument, r.resolveTradeable asOf identifier = .ok (.instrument instrument) →
        ∃ m ∈ r.fields.aliases, normalizeAlias identifier = some m.fields.aliasName
          ∧ m.fields.target = .instrument instrument
          ∧ m.fields.effective.contains asOf = true
          ∧ m.fields.provenance.isVisibleAt asOf = true
          ∧ exchangeOf m.fields.aliasName = instrument.exchange.value := by
  refine ⟨?_, r.exists_resolve asOf identifier, fun instrument h => ?_⟩
  · have hvisible := r.length_visible normalized asOf
    simp only [visible, effective, candidates, List.filter_filter] at hvisible
    convert hvisible using 4
    rename_i m
    simp only [Bool.decide_and, Bool.decide_eq_true]
    ac_rfl
  · unfold resolveTradeable InstrumentRegistryFields.resolveTradeable at h
    split at h
    · cases Except.ok.inj h
    · obtain ⟨outcome, houtcome, h⟩ := Py.of_bind h
      rcases outcome with resolution | failure
      · obtain ⟨m, hm, hnormalized, htarget⟩ := r.resolve_eq_resolution asOf identifier houtcome
        obtain ⟨hmem, hname, hcontains, hvisible⟩ := mem_visible.mp (visible_of_active hm)
        have h := Except.ok.inj h
        unfold tradeable at h
        rw [htarget] at h
        split at h
        · cases h
        · rename_i i hinstrument
          split at h
          · cases h
          · rename_i hexchange
            obtain rfl := TradeableOutcome.instrument.inj h
            rw [not_not] at hexchange
            exact ⟨m, hmem, by rw [hnormalized, hname], hinstrument, hcontains, hvisible,
              by rw [hname]; exact hexchange⟩
        · cases h
      · cases Except.ok.inj h

end InstrumentRegistry

/-! ### A registry of one alias -/

namespace InstrumentRegistry

/-- A host that prints every character. -/
def printingHost : CalendarHost := ⟨fun _ => true, fun _ => []⟩

/-- The October contract of rebar. -/
def rebarOctober : Instrument :=
  ⟨{ variety := .rebar, deliveryCode := "2610" }, by decide⟩

/-- The moment from which its alias is known and in effect. -/
def releasedAt : RecordedAt := ⟨.of 2026 9 3 (Eq.refl true), 0, 0, 0, 0⟩

/-- The alias of the contract. -/
def rebarAlias : AliasMapping :=
  ⟨{ aliasName := "SHFE.RB2610", target := .instrument rebarOctober
     effective := ⟨{ effectiveFrom := releasedAt }, rfl⟩, version := 1
     provenance := ⟨⟨"exchange", releasedAt, none, none⟩, rfl⟩ }, by decide⟩

/-- A release of the alias is accepted. -/
theorem exists_rebarRegistry [Hashlib] :
    ∃ r : InstrumentRegistry printingHost, r.fields.aliases = [rebarAlias] := by
  obtain ⟨digest, hdigest, -⟩ := exists_canonicalSha256_of_isWritable
    (show (Json.arr (sortedByRepr printingHost ([rebarAlias].map aliasPayload))).isWritable = true
      by decide +kernel)
  refine ⟨⟨⟨.epoch "instrument_registry" 0 0 (Eq.refl true), 1, [rebarAlias], digest⟩, ?_⟩, rfl⟩
  simp only [InstrumentRegistryFields.postInit, check_bind_eq_ok, require_eq_ok, requireVersion,
    rejectOverlappingAliases]
  refine ⟨rfl, le_refl 1, List.cons_ne_nil _ _, List.pairwise_singleton _ _, ?_⟩
  rw [show registryContentSha256 printingHost [rebarAlias] = .ok digest from hdigest, Py.ok_bind]
  exact require_eq_ok.mpr rfl

/-- The contract is resolved by its alias, in lowercase as well. -/
theorem resolve_unique_rebar : ∃ r : InstrumentRegistry printingHost,
    r.resolveTradeable releasedAt "shfe.rb2610" = .ok (.instrument rebarOctober)
      ∧ ∃ m ∈ r.fields.aliases, m.fields.target = .instrument rebarOctober
        ∧ m.fields.effective.contains releasedAt = true
        ∧ InstrumentRegistryFields.exchangeOf m.fields.aliasName = rebarOctober.exchange.value := by
  obtain ⟨r, hr⟩ := exists_rebarRegistry
  have hactive : r.fields.active "SHFE.RB2610" releasedAt = [rebarAlias] := by
    simp only [InstrumentRegistryFields.active, InstrumentRegistryFields.targetVisible,
      InstrumentRegistryFields.visible, InstrumentRegistryFields.effective,
      InstrumentRegistryFields.candidates, hr]
    decide +kernel
  have hresolved : r.resolveTradeable releasedAt "shfe.rb2610" = .ok (.instrument rebarOctober) := by
    obtain ⟨resolution, hresolution⟩ := r.exists_resolution rebarAlias
    rw [resolveTradeable, InstrumentRegistryFields.resolveTradeable, if_neg (by decide +kernel),
      InstrumentRegistryFields.resolve,
      show normalizeAlias "shfe.rb2610" = some (Text.ofString "SHFE.RB2610") by decide +kernel]
    dsimp only
    rw [hactive]
    dsimp only
    rw [hresolution, Py.ok_bind, Py.ok_bind]
    dsimp only
    rw [InstrumentRegistryFields.tradeable, Frozen.make_eq_ok.mp hresolution]
    exact congrArg Except.ok (if_neg (not_not.mpr (show InstrumentRegistryFields.exchangeOf
      rebarAlias.fields.aliasName = rebarOctober.exchange.value by decide)))
  obtain ⟨-, -, hall⟩ := r.resolve_unique "SHFE.RB2610" releasedAt "shfe.rb2610"
  obtain ⟨m, hm, -, htarget, hcontains, -, hexchange⟩ := hall rebarOctober hresolved
  exact ⟨r, hresolved, m, hm, htarget, hcontains, hexchange⟩

end InstrumentRegistry

end FuturesAgentOs
