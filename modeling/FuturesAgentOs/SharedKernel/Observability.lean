import FuturesAgentOs.PyModel.Exception
import FuturesAgentOs.PyModel.Hashlib
import FuturesAgentOs.PyModel.JsonRoundTrip

namespace FuturesAgentOs

open PyModel

/-!
# Canonical digests

`shared_kernel/observability.py`: `canonical_sha256`, the digest of the canonical JSON of a
value.  A `Json` array stands for the tuples that the function takes.
-/

variable [Hashlib]

def canonicalSha256 (value : Json) : Py Text :=
  match value.dumps with
  | none => .error (valueError "value must be finite JSON-compatible data")
  | some encoded =>
    match encoded.encodeUtf8 with
    | none => .error ⟨.unicodeEncodeError, "surrogates not allowed"⟩
    | some bytes => .ok (sha256 bytes).hexdigest

/-- **The digest does not depend on the order of keys.** -/
theorem canonicalSha256_sortKeys (value : Json) :
    canonicalSha256 value.sortKeys = canonicalSha256 value := by
  rw [canonicalSha256, canonicalSha256, Json.dumps, Json.dumps, Json.isWritable_sortKeys,
    Json.render_sortKeys]

variable {value : Json}

theorem exists_canonicalSha256_of_isWritable (h : value.isWritable = true) :
    ∃ digest, canonicalSha256 value = .ok digest ∧ digest.IsHexDigest := by
  obtain ⟨bytes, hbytes⟩ := Text.encodeUtf8_of_isAscii (Json.isVisible_render h).isAscii
  refine ⟨(sha256 bytes).hexdigest, ?_, Digest.isHexDigest_hexdigest _⟩
  rw [canonicalSha256, Json.dumps, if_pos h]
  simp only [hbytes]

/-- A value with a digest can be written. -/
theorem isWritable_of_canonicalSha256 {v : Json} {digest : Text}
    (h : canonicalSha256 v = .ok digest) : v.isWritable = true := by
  by_contra hnot
  rw [canonicalSha256, Json.dumps, if_neg hnot] at h
  cases h

/-- A value that survives writing and reading has a digest. -/
theorem exists_canonicalSha256 (h : value.IsSafe) :
    ∃ digest, canonicalSha256 value = .ok digest ∧ digest.IsHexDigest :=
  exists_canonicalSha256_of_isWritable h.isWritable

theorem isHexDigest_of_canonicalSha256 {digest : Text}
    (h : canonicalSha256 value = .ok digest) : digest.IsHexDigest := by
  unfold canonicalSha256 at h
  split at h
  · cases h
  · split at h
    · cases h
    · rw [← Except.ok.inj h]
      exact Digest.isHexDigest_hexdigest _

/-- Two values that are written differently and have one digest. -/
def Collide (v w : Json) : Prop := v.dumps ≠ w.dumps ∧ canonicalSha256 v = canonicalSha256 w

/-- **What a digest says.**  Two values of one digest are equal up to the order of keys, or they
collide. -/
theorem sortKeys_eq_or_collide {v w : Json} (hv : v.IsSafe) (hw : w.IsSafe)
    (h : canonicalSha256 v = canonicalSha256 w) : v.sortKeys = w.sortKeys ∨ Collide v w := by
  by_cases hdumps : v.dumps = w.dumps
  · left
    obtain ⟨hv, hloads⟩ := Json.loads_dumps hv
    obtain ⟨hw, hloads'⟩ := Json.loads_dumps hw
    rw [hv, hw, Option.some.injEq] at hdumps
    rw [hdumps, hloads', Option.some.injEq] at hloads
    exact hloads.symm
  · exact Or.inr ⟨hdumps, h⟩

end FuturesAgentOs
