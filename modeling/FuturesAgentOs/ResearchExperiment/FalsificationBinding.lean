import FuturesAgentOs.ResearchExperiment.FalsificationPredicate
import FuturesAgentOs.SharedKernel.CommandEffects

namespace FuturesAgentOs

open PyModel

/-!
# The text of a falsification condition

`research_experiment/mvp_r_005/predicate.py`: `bind_falsification_condition` writes the JSON of a
predicate and its rendering into one text, and `parse_falsification_condition` reads the predicate
back from the JSON and compares the rendering with the one that the text shows.  The readers of the
members are those of `mvp_r_003/contracts.py`.

* `bind_parse_iff` — for which predicates the text is written and read back.
-/

/-! ### Splitting at a separator -/

/-- `t.split(separator, 1)`, none when the separator is not in the text. -/
def splitOnce (separator : Text) : Text → Option (Text × Text)
  | [] => none
  | c :: t =>
    if separator.isPrefixOf (c :: t) = true then some ([], (c :: t).drop separator.length)
    else (splitOnce separator t).map fun (left, right) => (c :: left, right)

theorem eq_of_splitOnce {separator t left right : Text}
    (h : splitOnce separator t = some (left, right)) : t = left ++ separator ++ right := by
  induction t generalizing left with
  | nil => cases h
  | cons c t ih =>
    rw [splitOnce] at h
    split_ifs at h with hstart
    · obtain ⟨rest, hrest⟩ := List.isPrefixOf_iff_prefix.mp hstart
      rw [Option.some.injEq, Prod.mk.injEq, ← hrest, List.drop_left] at h
      rw [← hrest, ← h.1, ← h.2, List.nil_append]
    · obtain ⟨⟨left', right'⟩, hsplit, heq⟩ := Option.map_eq_some_iff.mp h
      simp only [Prod.mk.injEq] at heq
      obtain ⟨rfl, rfl⟩ := heq
      rw [ih hsplit]
      rfl

theorem splitOnce_append {c : CodePoint} {separator left : Text} (right : Text) (h : c ∉ left) :
    splitOnce (c :: separator) (left ++ c :: separator ++ right) = some (left, right) := by
  induction left with
  | nil =>
    have hstart : (c :: separator).isPrefixOf (c :: (separator ++ right)) = true :=
      List.isPrefixOf_iff_prefix.mpr (List.prefix_append (c :: separator) right)
    show splitOnce (c :: separator) (c :: (separator ++ right)) = _
    rw [splitOnce, if_pos hstart]
    show some ([], (c :: separator ++ right).drop (c :: separator).length) = _
    rw [List.drop_left]
  | cons d left ih =>
    rw [List.mem_cons, not_or] at h
    have hstart : ¬ (c :: separator).isPrefixOf (d :: (left ++ c :: separator ++ right)) = true := by
      rw [List.isPrefixOf_iff_prefix, List.cons_prefix_cons]
      exact fun heq => h.1 heq.1
    show splitOnce (c :: separator) (d :: (left ++ c :: separator ++ right)) = _
    rw [splitOnce, if_neg hstart, ih h.2]
    rfl

/-! ### The decoder -/

/-- `_text` -/
def readPredicateText (field : Text) (v : Json) : Py Text :=
  match v with
  | .str t => do
    require (t.strip ≠ []) (valueError (field ++ (" requires non-empty text" : Text)))
    .ok t
  | _ => .error (valueError (field ++ (" requires non-empty text" : Text)))

/-- `_integer` -/
def readInteger (field : Text) (v : Json) : Py ℤ :=
  match v with
  | .int n => do
    require (1 ≤ n) (valueError (field ++ (" requires a positive integer" : Text)))
    .ok n
  | _ => .error (valueError (field ++ (" requires a positive integer" : Text)))

/-- `None if value is None else read(value)` -/
def readNullable {α : Type} (read : Json → Py α) (v : Json) : Py (Option α) :=
  match v with
  | .null => .ok none
  | v => do
    let value ← read v
    .ok (some value)

/-- `PredicateClauseKind(t)` -/
def PredicateClauseKind.ofValue (t : Text) : Py PredicateClauseKind :=
  match PredicateClauseKind.all.find? (fun kind => kind.value = t) with
  | some kind => .ok kind
  | none => .error (valueError "is not a valid PredicateClauseKind")

namespace PredicateClauseFields

open PredicateClauseKind

/-- The check of the metric of a fold that `_clause` makes. -/
def checkFoldMetric (f : PredicateClauseFields) : Py Unit :=
  require (f.kind = eachOosFoldPrimaryBeatsControl ∨ f.kind = atLeastNOosFoldsAboveThreshold →
      ∀ metric ∈ f.metric, metric ∈ foldMetricFields.map Prod.fst)
    (valueError (("fold predicate metric " : Text) ++ strOrNone f.metric
      ++ (" has no registered per-fold fields and cannot be used" : Text)))

/-- What `_clause` keeps of the members it read, none when the clause has nothing to evaluate. -/
def normalised (f : PredicateClauseFields) : Option PredicateClauseFields :=
  match f.kind with
  | aggregatePrimaryBeatsControl | primaryPositiveAndBeatsControl =>
    some { f with threshold := none, foldN := none, minimumCount := none }
  | eachOosFoldPrimaryBeatsControl =>
    if f.metric = none then none
    else some { f with threshold := none, foldN := none, minimumCount := none }
  | atLeastNOosFoldsAboveThreshold =>
    if f.threshold = none ∨ f.foldN = none ∨ f.metric = none then none
    else some { f with minimumCount := none }
  | minimumFullWindowSignalCount =>
    if f.minimumCount = none then none
    else some { f with metric := none, threshold := none, foldN := none }
  | requiredOosFoldCount =>
    if f.foldN = none then none
    else some { f with metric := none, threshold := none, minimumCount := none }

/-- `PredicateClause(…)` of what is kept. -/
def construct (f : PredicateClauseFields) : Py (Option PredicateClause) :=
  match f.normalised with
  | none => .ok none
  | some f => do
    let clause ← Frozen.make f
    .ok (some clause)

end PredicateClauseFields

/-- The members of a clause. -/
def clauseKeys : List Text := ["kind", "metric", "threshold", "fold_n", "minimum_count"]

/-- `_clause` -/
def predicateClause (items : List (Text × Json)) : Py (Option PredicateClause) := do
  require (Json.keysAre items clauseKeys)
    (valueError "predicate clause fields do not match schema")
  let kindItem ← Json.item items "kind"
  let kindText ← readPredicateText "predicate kind" kindItem
  let kind ← PredicateClauseKind.ofValue kindText
  let metricItem ← Json.item items "metric"
  let metric ← readNullable (readPredicateText "predicate metric") metricItem
  let thresholdItem ← Json.item items "threshold"
  let threshold ← readNullable (readPredicateText "predicate threshold") thresholdItem
  let foldNItem ← Json.item items "fold_n"
  let foldN ← readNullable (readInteger "predicate fold_n") foldNItem
  let minimumItem ← Json.item items "minimum_count"
  let minimumCount ← readNullable (readInteger "predicate minimum") minimumItem
  let fields : PredicateClauseFields := ⟨kind, metric, threshold, foldN, minimumCount⟩
  fields.checkFoldMetric
  fields.construct

/-- `_clause(_mapping(item, …))` -/
def readClause (item : Json) : Py (Option PredicateClause) := do
  let items ← objectItems (valueError "predicate clause requires an object") item
  predicateClause items

def parsePredicateMapping (value : Json) : Py FalsificationPredicate := do
  let payload ← objectItems (valueError "falsification predicate requires an object") value
  require ((payload.map Prod.fst).all
      (· ∈ (["clauses", "schema_version", "content_sha256"] : List Text)) = true
      ∧ ("clauses" : Text) ∈ payload.map Prod.fst)
    (valueError "falsification predicate keys must be exact")
  let sequence ← Json.item payload "clauses"
  let items ← arrayItems (valueError "clauses requires a sequence") sequence
  let read ← items.mapM readClause
  let clauses := read.filterMap id
  require (clauses ≠ []) (valueError "falsification predicate has no evaluable clauses")
  Frozen.make ⟨clauses⟩

def predicateMarker : Text := "mvp-r-005.falsification-predicate.v1"

/-- A line feed. -/
def lineFeed : CodePoint := ⟨10, by decide⟩

def predicateSeparator : Text := lineFeed :: (("---" : Text) ++ [lineFeed])

/-- `PREDICATE_MARKER + "\n"` -/
def markerLine : Text := predicateMarker ++ [lineFeed]

/-- The object in `json.loads(raw)`. -/
def loadedObject (raw : Text) : Py (List (Text × Json)) :=
  match Json.loads raw with
  | none => .error ⟨.jsonDecodeError, "Expecting value"⟩
  | some (.obj items) => .ok items
  | some _ => .error (valueError "typed falsification payload must be an object")

/-- The check of `payload.get("schema_version")`. -/
def checkSchema (payload : List (Text × Json)) : Py Unit :=
  match Json.lookup "schema_version" payload with
  | some (.str version) =>
    require (version = FalsificationPredicate.schemaVersion)
      (valueError "unsupported falsification predicate schema")
  | _ => .error (valueError "unsupported falsification predicate schema")

/-- `parse_falsification_condition` of a text that begins with the marker. -/
def parseMarked (rest : Text) : Py FalsificationPredicate :=
  match splitOnce predicateSeparator rest with
  | none => .error (valueError "typed falsification condition is missing the render binding")
  | some (raw, rendered) => do
    let payload ← loadedObject raw
    checkSchema payload
    let clauses ← Json.item payload "clauses"
    let predicate ← parsePredicateMapping (.obj [("clauses", clauses)])
    require (rendered = predicate.render)
      (valueError "human-readable falsification text does not exact-bind the typed predicate")
    .ok predicate

def parseFalsificationCondition (condition : Text) : Py (Option FalsificationPredicate) :=
  if markerLine.isPrefixOf condition = true then do
    let predicate ← parseMarked (condition.drop markerLine.length)
    .ok (some predicate)
  else .ok none

section

variable [Hashlib]

/-- `parsed is None or parsed.content_sha256 != … or parsed.render() != rendered` -/
def failsBinding (predicate : FalsificationPredicate) (parsed : Option FalsificationPredicate) :
    Py Bool :=
  match parsed with
  | none => .ok true
  | some parsed => do
    let found ← canonicalSha256 parsed.payload
    let expected ← canonicalSha256 predicate.payload
    .ok (decide (found ≠ expected ∨ parsed.render ≠ predicate.render))

def bindFalsificationCondition (predicate : FalsificationPredicate) : Py Text := do
  let payload ← canonicalJsonText predicate.payload
  let text := markerLine ++ payload ++ predicateSeparator ++ predicate.render
  let parsed ← parseFalsificationCondition text
  let fails ← failsBinding predicate parsed
  require (fails = false) (valueError "falsification predicate failed exact render binding")
  .ok text

end

/-! ### The text of a threshold -/

namespace DecimalNumber

open PyModel.Decimal

variable {t : Text} {d : DecimalNumber}

theorem isAscii_of_ofText (h : ofText t = .ok d) : (normalized t).IsAscii := by
  have hbody : (parseSign (normalized t)).2.IsAscii := by
    unfold ofText at h
    rcases hsign : parseSign (normalized t) with ⟨neg, body⟩
    rw [hsign] at h
    simp only at h ⊢
    split_ifs at h with hword hspecial
    · refine isAscii_of_lower ?_
      rcases hword with hword | hword <;>
      · rw [hword]
        decide
    · exact isAscii_of_isSpecial hspecial
    · rcases hnumber : parseNumber neg body with _ | number
      · rw [hnumber] at h
        cases h
      · exact isAscii_of_parseNumber hnumber
  unfold parseSign at hbody
  rcases hnormal : normalized t with _ | ⟨c, rest⟩
  · exact fun c hc => by cases hc
  · rw [hnormal] at hbody
    simp only at hbody
    split_ifs at hbody with hminus hplus
    · rw [Text.isAscii_cons, hminus]
      exact ⟨by decide, hbody⟩
    · rw [Text.isAscii_cons, hplus]
      exact ⟨by decide, hbody⟩
    · exact hbody

theorem isJsonSafe_of_ofText (h : ofText t = .ok d) : t.IsJsonSafe := by
  refine Text.isJsonSafe_of_no_high fun c hc => ?_
  by_contra hhigh
  rw [Bool.not_eq_false] at hhigh
  have hrange := hhigh
  simp only [Json.isHigh, Bool.and_eq_true, decide_eq_true_eq] at hrange
  have hspace : Text.isSpace c = false := by
    simp only [Text.isSpace, Bool.or_eq_false_iff, Bool.and_eq_false_iff, decide_eq_false_iff_not,
      beq_eq_false_iff_ne]
    omega
  have hunderscore : c ≠ Text.ofChar '_' := by
    rintro rfl
    revert hhigh
    decide
  have hmem : c ∈ normalized t := by
    rw [normalized, List.mem_map]
    refine ⟨c, List.mem_filter.mpr ⟨mem_strip hc hspace, decide_eq_true hunderscore⟩, ?_⟩
    exact asciiDigit_of_isHigh hhigh
  have hascii := isAscii_of_ofText h c hmem
  omega

/-- A text that `Decimal` takes has something else than spaces. -/
theorem strip_ne_nil_of_ofText (h : ofText t = .ok d) : t.strip ≠ [] := by
  intro hnil
  have hnormal : normalized t = [] := by
    rw [normalized, hnil]
    rfl
  rw [ofText, hnormal] at h
  revert h
  simp only [parseSign]
  rintro ⟨⟩

end DecimalNumber

/-! ### The shapes of clauses -/

/-- The fields that the constructor of a clause admits. -/
inductive PredicateClauseFields.Shape : PredicateClauseFields → Prop where
  | aggregate (metric) : metric ∈ controlByPrimary.map Prod.fst →
      Shape ⟨.aggregatePrimaryBeatsControl, some metric, none, none, none⟩
  | positive (metric) : metric ∈ controlByPrimary.map Prod.fst →
      Shape ⟨.primaryPositiveAndBeatsControl, some metric, none, none, none⟩
  | eachFold (metric) : metric ∈ foldMetricFields.map Prod.fst →
      Shape ⟨.eachOosFoldPrimaryBeatsControl, some metric, none, none, none⟩
  | atLeast (metric threshold number foldN) : metric ∈ foldMetricFields.map Prod.fst →
      DecimalNumber.ofText threshold = .ok number →
        Shape ⟨.atLeastNOosFoldsAboveThreshold, some metric, some threshold, some foldN, none⟩
  | minimum (count) : Shape ⟨.minimumFullWindowSignalCount, none, none, none, some count⟩
  | required (foldN) : Shape ⟨.requiredOosFoldCount, none, none, some foldN, none⟩

namespace PredicateClauseFields

theorem shape_of_postInit {f : PredicateClauseFields} (h : f.postInit = .ok ()) : f.Shape := by
  obtain ⟨hmetric, h⟩ := check_bind_eq_ok.mp h
  obtain ⟨hthreshold, h⟩ := check_bind_eq_ok.mp h
  obtain ⟨hfoldN, hminimum⟩ := check_bind_eq_ok.mp h
  obtain ⟨kind, metric, threshold, foldN, minimumCount⟩ := f
  cases kind with
  | aggregatePrimaryBeatsControl | primaryPositiveAndBeatsControl
  | eachOosFoldPrimaryBeatsControl =>
    obtain ⟨metric, rfl, hregistered⟩ := require_eq_ok.mp hmetric
    obtain rfl : threshold = none := require_eq_ok.mp hthreshold
    obtain rfl : foldN = none := (require_eq_ok.mp hfoldN).resolve_left (by rintro ⟨⟩)
    obtain rfl : minimumCount = none := require_eq_ok.mp hminimum
    constructor
    exact hregistered
  | atLeastNOosFoldsAboveThreshold =>
    obtain ⟨metric, rfl, hregistered⟩ := require_eq_ok.mp hmetric
    obtain rfl : minimumCount = none := require_eq_ok.mp hminimum
    rcases threshold with _ | threshold
    · cases hthreshold
    rcases foldN with _ | foldN
    · cases hthreshold
    obtain ⟨number, hnumber, -⟩ := Py.of_bind hthreshold
    exact .atLeast metric threshold number foldN hregistered hnumber
  | minimumFullWindowSignalCount =>
    obtain rfl : metric = none := require_eq_ok.mp hmetric
    obtain rfl : threshold = none := require_eq_ok.mp hthreshold
    obtain rfl : foldN = none := (require_eq_ok.mp hfoldN).resolve_left (by rintro ⟨⟩)
    rcases minimumCount with _ | count
    · cases hminimum
    · exact .minimum count
  | requiredOosFoldCount =>
    obtain rfl : metric = none := require_eq_ok.mp hmetric
    obtain rfl : threshold = none := require_eq_ok.mp hthreshold
    obtain rfl : minimumCount = none := require_eq_ok.mp hminimum
    rcases foldN with _ | foldN
    · cases hfoldN
    · exact .required foldN

variable {f : PredicateClauseFields}

/-- The decoder keeps a clause as it is. -/
theorem Shape.normalised_eq (h : f.Shape) : f.normalised = some f := by
  cases h <;> rfl

/-- The decoder keeps the numbers of a clause, or drops them. -/
theorem normalised_numbers {g : PredicateClauseFields} (h : f.normalised = some g) :
    (g.foldN = f.foldN ∨ g.foldN = none)
      ∧ (g.minimumCount = f.minimumCount ∨ g.minimumCount = none) := by
  obtain ⟨kind, metric, threshold, foldN, minimumCount⟩ := f
  cases kind with
  | aggregatePrimaryBeatsControl | primaryPositiveAndBeatsControl =>
    obtain rfl := Option.some.inj h
    exact ⟨.inr rfl, .inr rfl⟩
  | eachOosFoldPrimaryBeatsControl =>
    simp only [normalised] at h
    split_ifs at h
    obtain rfl := Option.some.inj h
    exact ⟨.inr rfl, .inr rfl⟩
  | atLeastNOosFoldsAboveThreshold | requiredOosFoldCount =>
    simp only [normalised] at h
    split_ifs at h
    obtain rfl := Option.some.inj h
    exact ⟨.inl rfl, .inr rfl⟩
  | minimumFullWindowSignalCount =>
    simp only [normalised] at h
    split_ifs at h
    obtain rfl := Option.some.inj h
    exact ⟨.inr rfl, .inl rfl⟩

theorem registered_primary {metric : Text} (h : metric ∈ foldMetricFields.map Prod.fst) :
    metric ∈ controlByPrimary.map Prod.fst := by
  have hall : ∀ metric ∈ foldMetricFields.map Prod.fst,
      metric ∈ controlByPrimary.map Prod.fst := by decide
  exact hall metric h

theorem Shape.registered (h : f.Shape) :
    ∀ metric ∈ f.metric, metric ∈ controlByPrimary.map Prod.fst := by
  intro metric hmetric
  cases h with
  | aggregate metric' hregistered | positive metric' hregistered =>
    exact Option.some.inj hmetric ▸ hregistered
  | eachFold metric' hregistered | atLeast metric' _ _ _ hregistered =>
    exact Option.some.inj hmetric ▸ registered_primary hregistered
  | minimum | required => cases hmetric

theorem Shape.threshold_ofText (h : f.Shape) :
    ∀ threshold ∈ f.threshold, ∃ number, DecimalNumber.ofText threshold = .ok number := by
  intro threshold hthreshold
  cases h with
  | atLeast _ threshold' number _ _ hnumber =>
    exact ⟨number, Option.some.inj hthreshold ▸ hnumber⟩
  | _ => cases hthreshold

theorem Shape.checkFoldMetric_eq (h : f.Shape) : f.checkFoldMetric = .ok () := by
  refine require_eq_ok.mpr fun hkind metric hmetric => ?_
  cases h with
  | aggregate | positive | minimum | required => rcases hkind with hkind | hkind <;> cases hkind
  | eachFold metric' hregistered | atLeast metric' _ _ _ hregistered =>
    exact Option.some.inj hmetric ▸ hregistered

end PredicateClauseFields

/-! ### Reading a clause that was written -/

namespace PredicateClause

/-- The numbers of a clause are positive, and not too long to be written. -/
def HasPositiveCounts (c : PredicateClause) : Prop :=
  (∀ n ∈ c.fields.foldN, 1 ≤ n ∧ FitsStr n) ∧ ∀ n ∈ c.fields.minimumCount, 1 ≤ n ∧ FitsStr n

instance (c : PredicateClause) : Decidable c.HasPositiveCounts := inferInstanceAs (Decidable (_ ∧ _))

end PredicateClause

theorem PredicateClauseKind.ofValue_value (kind : PredicateClauseKind) :
    ofValue kind.value = .ok kind := by
  cases kind <;> rfl

variable {field : Text}

theorem readPredicateText_str {t : Text} (h : t.strip ≠ []) : readPredicateText field (.str t) = .ok t := by
  rw [readPredicateText, require, if_pos h]
  rfl

theorem readNullable_text {value : Option Text} (h : ∀ t ∈ value, Text.strip t ≠ []) :
    readNullable (readPredicateText field) (jsonText? value).sortKeys = .ok value := by
  rcases value with _ | t
  · rfl
  · show (readPredicateText field (.str t) >>= fun t => .ok (some t)) = _
    rw [readPredicateText_str (h t rfl)]
    rfl

theorem readNullable_int {value : Option ℤ} (h : ∀ n ∈ value, 1 ≤ n) :
    readNullable (readInteger field) (jsonInt? value).sortKeys = .ok value := by
  rcases value with _ | n
  · rfl
  · show ((require (1 ≤ n) _ >>= fun _ => .ok n) >>= fun n => .ok (some n)) = _
    rw [require, if_pos (h n rfl)]
    rfl

theorem positive_of_readNullable {v : Json} {value : Option ℤ}
    (h : readNullable (readInteger field) v = .ok value) : ∀ n ∈ value, 1 ≤ n := by
  cases v with
  | null =>
    obtain rfl := Except.ok.inj h
    rintro n ⟨⟩
  | int k =>
    obtain ⟨n, hn, hvalue⟩ := Py.of_bind h
    obtain ⟨hpos, heq⟩ := of_require hn
    obtain rfl := Except.ok.inj heq
    obtain rfl := Except.ok.inj hvalue
    intro n hn
    rwa [← Option.some.inj hn]
  | _ => cases h

namespace PredicateClause

variable {c : PredicateClause}

theorem shape (c : PredicateClause) : c.fields.Shape :=
  PredicateClauseFields.shape_of_postInit c.valid

theorem isJsonSafe_metric {metric : Text} (h : metric ∈ controlByPrimary.map Prod.fst) :
    metric.IsJsonSafe ∧ metric.strip ≠ [] := by
  have hall : ∀ metric ∈ controlByPrimary.map Prod.fst,
      Text.IsJsonSafe metric ∧ Text.strip metric ≠ [] := by decide
  exact hall metric h

/-- **Reading.**  A clause with positive numbers is read back from its payload. -/
theorem readClause_payload (h : c.HasPositiveCounts) :
    readClause c.payload.sortKeys = .ok (some c) := by
  have hkeys : (payloadItems c.fields).map Prod.fst = clauseKeys := rfl
  have hnodup : ((payloadItems c.fields).map Prod.fst).Nodup := by
    rw [hkeys]
    decide
  have hitem : ∀ key v, Json.lookup key (payloadItems c.fields) = some v →
      Json.item (Json.sorted (payloadItems c.fields)) key = .ok v.sortKeys :=
    fun key v hv => Json.item_sorted hnodup hv
  have hkind : (PredicateClauseKind.value c.fields.kind).strip ≠ [] := by
    cases c.fields.kind <;> decide
  have hmetric := fun metric hmem =>
    (isJsonSafe_metric (c.shape.registered metric hmem)).2
  have hthreshold : ∀ threshold ∈ c.fields.threshold, Text.strip threshold ≠ [] := by
    intro threshold hmem
    obtain ⟨number, hnumber⟩ := c.shape.threshold_ofText threshold hmem
    exact DecimalNumber.strip_ne_nil_of_ofText hnumber
  have hfoldN := fun n hn => (h.1 n hn).1
  have hminimum := fun n hn => (h.2 n hn).1
  rw [payload, Json.sortKeys_obj]
  show predicateClause (Json.sorted (payloadItems c.fields)) = _
  rw [predicateClause, require, if_pos (Json.keysAre_sorted (Json.keysAre_of_eq hkeys)), Py.ok_bind,
    hitem "kind" (.str c.fields.kind.value) rfl, Py.ok_bind, Json.sortKeys, readPredicateText_str hkind,
    Py.ok_bind, PredicateClauseKind.ofValue_value, Py.ok_bind,
    hitem "metric" (jsonText? c.fields.metric) rfl, Py.ok_bind, readNullable_text hmetric,
    Py.ok_bind, hitem "threshold" (jsonText? c.fields.threshold) rfl, Py.ok_bind,
    readNullable_text hthreshold, Py.ok_bind,
    hitem "fold_n" (jsonInt? c.fields.foldN) rfl, Py.ok_bind, readNullable_int hfoldN, Py.ok_bind,
    hitem "minimum_count" (jsonInt? c.fields.minimumCount) rfl, Py.ok_bind,
    readNullable_int hminimum, Py.ok_bind]
  show (c.fields.checkFoldMetric >>= fun _ => c.fields.construct) = _
  rw [c.shape.checkFoldMetric_eq, Py.ok_bind, PredicateClauseFields.construct,
    c.shape.normalised_eq]
  have hmake : Frozen.make c.fields = .ok c := Frozen.make_eq_ok.mpr rfl
  simp only [hmake, Py.ok_bind]

end PredicateClause

/-! ### Binding and parsing -/

theorem positive_of_readClause {item : Json} {c : PredicateClause}
    (h : readClause item = .ok (some c)) :
    (∀ n ∈ c.fields.foldN, 1 ≤ n) ∧ ∀ n ∈ c.fields.minimumCount, 1 ≤ n := by
  obtain ⟨items, -, h⟩ := Py.of_bind h
  obtain ⟨-, h⟩ := of_require h
  obtain ⟨_, -, h⟩ := Py.of_bind h
  obtain ⟨_, -, h⟩ := Py.of_bind h
  obtain ⟨kind, -, h⟩ := Py.of_bind h
  obtain ⟨_, -, h⟩ := Py.of_bind h
  obtain ⟨metric, -, h⟩ := Py.of_bind h
  obtain ⟨_, -, h⟩ := Py.of_bind h
  obtain ⟨threshold, -, h⟩ := Py.of_bind h
  obtain ⟨_, -, h⟩ := Py.of_bind h
  obtain ⟨foldN, hfoldN, h⟩ := Py.of_bind h
  obtain ⟨_, -, h⟩ := Py.of_bind h
  obtain ⟨minimumCount, hminimum, h⟩ := Py.of_bind h
  obtain ⟨_, -, h⟩ := Py.of_bind h
  have hfoldN := positive_of_readNullable hfoldN
  have hminimum := positive_of_readNullable hminimum
  unfold PredicateClauseFields.construct at h
  split at h
  · cases h
  rename_i f hnormal
  obtain ⟨clause, hclause, h⟩ := Py.of_bind h
  obtain rfl := Option.some.inj (Except.ok.inj h)
  obtain rfl := Frozen.make_eq_ok.mp hclause
  -- a normalised clause has the numbers that were read, or none
  have hkept := PredicateClauseFields.normalised_numbers hnormal
  refine ⟨fun n hn => ?_, fun n hn => ?_⟩
  · rcases hkept.1 with heq | heq
    · rw [heq] at hn
      exact hfoldN n hn
    · rw [heq] at hn
      cases hn
  · rcases hkept.2 with heq | heq
    · rw [heq] at hn
      exact hminimum n hn
    · rw [heq] at hn
      cases hn

theorem readClause_of_mem {value : Json} {p : FalsificationPredicate}
    (h : parsePredicateMapping value = .ok p) :
    ∀ c ∈ p.fields.clauses, ∃ item, readClause item = .ok (some c) := by
  obtain ⟨payload, -, h⟩ := Py.of_bind h
  obtain ⟨-, h⟩ := of_require h
  obtain ⟨sequence, -, h⟩ := Py.of_bind h
  obtain ⟨items, -, h⟩ := Py.of_bind h
  obtain ⟨read, hread, h⟩ := Py.of_bind h
  obtain ⟨-, h⟩ := of_require h
  intro c hc
  rw [Frozen.make_eq_ok.mp h] at hc
  obtain ⟨answer, hanswer, heq⟩ := List.mem_filterMap.mp hc
  obtain ⟨item, -, hitem⟩ := Py.exists_of_mem_mapM hread answer hanswer
  exact ⟨item, by rw [hitem, ← heq]; rfl⟩

theorem parse_eq_some {text : Text} {p : FalsificationPredicate}
    (h : parseFalsificationCondition text = .ok (some p)) :
    ∃ raw value, text = markerLine ++ raw ++ predicateSeparator ++ p.render
      ∧ parsePredicateMapping value = .ok p := by
  unfold parseFalsificationCondition at h
  split_ifs at h with hmarker
  · obtain ⟨rest, rfl⟩ := List.isPrefixOf_iff_prefix.mp hmarker
    obtain ⟨q, hq, heq⟩ := Py.of_bind h
    obtain rfl := Option.some.inj (Except.ok.inj heq)
    rw [List.drop_left] at hq
    unfold parseMarked at hq
    split at hq
    · cases hq
    rename_i raw rendered hsplit
    obtain ⟨payload, -, hq⟩ := Py.of_bind hq
    obtain ⟨_, -, hq⟩ := Py.of_bind hq
    obtain ⟨clauses, -, hq⟩ := Py.of_bind hq
    obtain ⟨predicate, hpredicate, hq⟩ := Py.of_bind hq
    obtain ⟨hrender, hq⟩ := of_require hq
    obtain rfl := Except.ok.inj hq
    refine ⟨raw, _, ?_, hpredicate⟩
    rw [eq_of_splitOnce hsplit, hrender]
    simp only [List.append_assoc]
  · cases h

namespace FalsificationPredicate

variable {p : FalsificationPredicate}

/-- The members of `payload`. -/
def payloadItems (p : FalsificationPredicate) : List (Text × Json) := [
  ("schema_version", .str schemaVersion),
  ("clauses", .arr (p.fields.clauses.map PredicateClause.payload))]

/-- The numbers of the clauses are positive, and not too long to be written. -/
def HasPositiveCounts (p : FalsificationPredicate) : Prop :=
  ∀ c ∈ p.fields.clauses, c.HasPositiveCounts

instance (p : FalsificationPredicate) : Decidable p.HasPositiveCounts :=
  List.decidableBAll (fun c : PredicateClause => c.HasPositiveCounts) p.fields.clauses

theorem isSafe_clause {c : PredicateClause} (h : c.HasPositiveCounts) : c.payload.IsSafe := by
  have hkeys : (PredicateClause.payloadItems c.fields).map Prod.fst = clauseKeys := rfl
  refine Json.isSafe_obj hkeys (by decide) (by decide) ?_
  have hkind : Text.IsJsonSafe c.fields.kind.value := by
    cases c.fields.kind <;> decide
  have hmetric : (jsonText? c.fields.metric).IsSafe := by
    rcases hmetric : c.fields.metric with _ | metric
    · trivial
    · exact (PredicateClause.isJsonSafe_metric (c.shape.registered metric hmetric)).1
  have hthreshold : (jsonText? c.fields.threshold).IsSafe := by
    rcases hthreshold : c.fields.threshold with _ | threshold
    · trivial
    · obtain ⟨number, hnumber⟩ := c.shape.threshold_ofText threshold hthreshold
      exact DecimalNumber.isJsonSafe_of_ofText hnumber
  have hint : ∀ value : Option ℤ, (∀ n ∈ value, 1 ≤ n ∧ FitsStr n) → (jsonInt? value).IsSafe := by
    intro value hvalue
    rcases value with _ | n
    · trivial
    · exact (hvalue n rfl).2
  simp only [PredicateClause.payloadItems, List.forall_mem_cons]
  exact ⟨hkind, hmetric, hthreshold, hint _ h.1, hint _ h.2, fun p hp => by cases hp⟩

theorem isSafe_payload (h : p.HasPositiveCounts) : p.payload.IsSafe := by
  have hkeys : List.map Prod.fst p.payloadItems = ["schema_version", "clauses"] := rfl
  refine Json.isSafe_obj hkeys (by decide) (by decide) ?_
  simp only [List.forall_mem_cons]
  exact ⟨Text.isJsonSafe_ofString _, Json.isSafe_arr fun c hc => isSafe_clause (h c hc),
    fun p hp => by cases hp⟩

theorem parsePredicateMapping_arr (items : List Json) :
    parsePredicateMapping (.obj [("clauses", .arr items)])
      = items.mapM readClause >>= fun read =>
          require (read.filterMap id ≠ [])
              (valueError "falsification predicate has no evaluable clauses") >>= fun _ =>
            Frozen.make ⟨read.filterMap id⟩ := rfl

theorem parsePredicateMapping_payload (h : p.HasPositiveCounts) :
    parsePredicateMapping (.obj [("clauses",
      (Json.arr (p.fields.clauses.map PredicateClause.payload)).sortKeys)]) = .ok p := by
  have hread : ((p.fields.clauses.map PredicateClause.payload).map Json.sortKeys).mapM readClause
      = .ok (p.fields.clauses.map some) := by
    rw [List.map_map, List.mapM_map]
    exact Py.mapM_eq_ok fun c hc => PredicateClause.readClause_payload (h c hc)
  have hclauses : (p.fields.clauses.map some).filterMap id = p.fields.clauses := by
    rw [List.filterMap_map]
    exact List.filterMap_some
  have hne : p.fields.clauses ≠ [] := require_eq_ok.mp p.valid
  have hmake : Frozen.make p.fields = .ok p := Frozen.make_eq_ok.mpr rfl
  rw [Json.sortKeys, Json.sortItems_eq, parsePredicateMapping_arr, hread, Py.ok_bind, hclauses,
    require, if_pos hne, Py.ok_bind]
  exact hmake

theorem parse_text (h : p.HasPositiveCounts) :
    parseFalsificationCondition (markerLine ++ p.payload.render ++ predicateSeparator ++ p.render)
      = .ok (some p) := by
  have hsafe := isSafe_payload h
  have hnodup : (p.payloadItems.map Prod.fst).Nodup := by
    show (["schema_version", "clauses"] : List Text).Nodup
    decide
  -- the JSON is one line, so that the separator begins where it ends
  have hline : lineFeed ∉ p.payload.render := by
    intro hmem
    exact absurd (Json.isVisible_render hsafe.isWritable lineFeed hmem).1 (by decide)
  have hsplit : splitOnce predicateSeparator (p.payload.render ++ predicateSeparator ++ p.render)
      = some (p.payload.render, p.render) := splitOnce_append p.render hline
  have hloaded : loadedObject p.payload.render = .ok (Json.sorted p.payloadItems) := by
    have hobj : p.payload.sortKeys = .obj (Json.sorted p.payloadItems) := Json.sortKeys_obj _
    rw [loadedObject, (Json.loads_dumps hsafe).2, hobj]
  have hschema : checkSchema (Json.sorted p.payloadItems) = .ok () := by
    rw [checkSchema, Json.sorted, Json.lookup_sortKeys hnodup]
    rfl
  have hclauses : Json.item (Json.sorted p.payloadItems) "clauses"
      = .ok (Json.arr (p.fields.clauses.map PredicateClause.payload)).sortKeys :=
    Json.item_sorted hnodup rfl
  have hmarker : markerLine.isPrefixOf
      (markerLine ++ (p.payload.render ++ predicateSeparator ++ p.render)) = true :=
    List.isPrefixOf_iff_prefix.mpr (List.prefix_append _ _)
  rw [List.append_assoc, List.append_assoc, ← List.append_assoc p.payload.render,
    parseFalsificationCondition, if_pos hmarker, List.drop_left, parseMarked, hsplit]
  simp only [hloaded, hschema, hclauses, parsePredicateMapping_payload h, Py.ok_bind, require,
    if_true]

theorem fitsStr_of_isWritable (h : p.payload.isWritable = true) :
    ∀ c ∈ p.fields.clauses, (∀ n ∈ c.fields.foldN, FitsStr n)
      ∧ ∀ n ∈ c.fields.minimumCount, FitsStr n := by
  have hint : ∀ value : Option ℤ, (jsonInt? value).isWritable = true → ∀ n ∈ value, FitsStr n := by
    rintro value hvalue n rfl
    exact (Json.isWritable_int n).mp hvalue
  intro c hc
  rw [payload, Json.isWritable, Json.membersWritable_iff] at h
  have hclauses := h ("clauses", _) (List.mem_cons_of_mem _ List.mem_cons_self)
  rw [Json.isWritable, Json.areWritable_iff] at hclauses
  have hclause := hclauses _ (List.mem_map_of_mem hc)
  rw [PredicateClause.payload, Json.isWritable, Json.membersWritable_iff] at hclause
  simp only [PredicateClause.payloadItems, List.forall_mem_cons] at hclause
  exact ⟨hint _ hclause.2.2.2.1, hint _ hclause.2.2.2.2.1⟩

end FalsificationPredicate

section

variable [Hashlib]

/-- **Binding.**  A predicate is bound, and parsed from the text that it is bound to, exactly when
its numbers are positive and not too long; and a text that is parsed shows the rendering of the
predicate that it is parsed to. -/
theorem bind_parse_iff (p : FalsificationPredicate) :
    ((∃ text, bindFalsificationCondition p = .ok text
        ∧ parseFalsificationCondition text = .ok (some p)) ↔ p.HasPositiveCounts)
      ∧ ∀ text, parseFalsificationCondition text = .ok (some p) →
          ∃ raw, text = markerLine ++ raw ++ predicateSeparator ++ p.render := by
  refine ⟨⟨?_, fun h => ?_⟩, fun text h => ?_⟩
  · rintro ⟨text, hbind, hparse⟩ c hc
    obtain ⟨payload, hpayload, -⟩ := Py.of_bind hbind
    obtain ⟨raw, value, -, hvalue⟩ := parse_eq_some hparse
    obtain ⟨item, hitem⟩ := readClause_of_mem hvalue c hc
    obtain ⟨hfoldN, hminimum⟩ := positive_of_readClause hitem
    have hwritable : p.payload.isWritable = true := by
      have hdumps := dumps_of_canonicalJsonText hpayload
      by_contra hnot
      rw [Json.dumps, if_neg hnot] at hdumps
      cases hdumps
    obtain ⟨hfits, hfits'⟩ := FalsificationPredicate.fitsStr_of_isWritable hwritable c hc
    exact ⟨fun n hn => ⟨hfoldN n hn, hfits n hn⟩, fun n hn => ⟨hminimum n hn, hfits' n hn⟩⟩
  · have hsafe := FalsificationPredicate.isSafe_payload h
    have hparse := FalsificationPredicate.parse_text h
    obtain ⟨digest, hdigest, -⟩ := exists_canonicalSha256 hsafe
    have hfails : failsBinding p (some p) = .ok false := by
      simp only [failsBinding, hdigest, Py.ok_bind]
      congr 1
      simp
    refine ⟨_, ?_, hparse⟩
    rw [bindFalsificationCondition, canonicalJsonText, (Json.loads_dumps hsafe).1]
    simp only [Py.ok_bind, hparse, hfails, require, if_true]
  · obtain ⟨raw, -, heq, -⟩ := parse_eq_some h
    exact ⟨raw, heq⟩

end

/-! ### A number that the constructor admits and the decoder refuses -/

/-- No fold is required. -/
def requiresNoFold : PredicateClause :=
  ⟨⟨.requiredOosFoldCount, none, none, some 0, none⟩, by decide⟩

def requiresNoFoldPredicate : FalsificationPredicate := ⟨⟨[requiresNoFold]⟩, by decide⟩

theorem bind_parse_iff_halfAccurate :
    ∃ text, bindFalsificationCondition halfAccuratePredicate = .ok text
      ∧ parseFalsificationCondition text = .ok (some halfAccuratePredicate) :=
  (bind_parse_iff halfAccuratePredicate).1.mpr (by decide)

/-- A predicate that is constructed and cannot be bound. -/
theorem constructed_not_bound : ∃ p : FalsificationPredicate, bindFalsificationCondition p
    = .error (valueError "predicate fold_n requires a positive integer") :=
  ⟨requiresNoFoldPredicate, by decide +kernel⟩

end FuturesAgentOs
