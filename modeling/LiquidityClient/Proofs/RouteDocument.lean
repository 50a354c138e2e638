import LiquidityClient.Proofs.JsonText
import LiquidityClient.Rest.Route
import Mathlib.Data.List.Nodup

/-!
# Routes read back from their documents

A record of members with different names is read by name (`JsonRecord.get?_ofMembers`), and each
kind of field reads back what was written in it : numbers of 64 bits as decimal texts, numbers of 32
bits as numbers, byte strings in Base64. `Route.json_round_trip` is the result for a route with any
number of hops, as a document and as the text of one.
-/

namespace LiquidityClient

open JsonValue (ofText ofDecimal ofBytes ofMembers asText? asBoolean? asList? asOptional? asUInt32?
  asUInt64? asInt64? asBytes?)

namespace JsonRecord

/-- The record of members. -/
def ofMembers (members : List (String × JsonValue)) : JsonRecord :=
  .named (members.map fun (name, value) => (some name, value))

theorem ofValue?_ofMembers (names : List String) {members : List (String × JsonValue)}
    (h : (members.map Prod.fst).Nodup) :
    ofValue? names (JsonValue.ofMembers members) = some (ofMembers members) := by
  have hnames : (members.map fun (name, value) => (some name, value)).all
      (fun member => member.1.isSome) = true := by
    simp [Function.comp_def]
  have hcount (name : String) :
      (members.map fun (name, value) => (some name, value)).countP
        (fun member => member.1 == some name) ≤ 1 := by
    have := List.nodup_iff_count_le_one.1 h name
    rw [List.count, List.countP_map] at this
    rw [List.countP_map]
    simpa [Function.comp_def] using this
  rw [JsonValue.ofMembers, ofValue?, if_pos]
  · rfl
  · rw [hnames, Bool.true_and, List.all_eq_true]
    exact fun name _ => decide_eq_true (hcount name)

theorem get?_ofMembers (position : Nat) (name : String) (members : List (String × JsonValue)) :
    (ofMembers members).get? position name = members.lookup name := by
  rw [ofMembers, get?]
  induction members with
  | nil => rfl
  | cons member members ih =>
    obtain ⟨first, value⟩ := member
    rw [List.map_cons, List.lookup_cons, List.lookup_cons, ih]
    rfl

end JsonRecord

namespace JsonValue

@[simp] theorem asUInt32?_integer (n : UInt32) : asUInt32? (.integer n.toNat) = some n := by
  rw [asUInt32?, asDecimal?, Decimal.readUInt32_ofInt]
  rfl

@[simp] theorem asUInt64?_ofDecimal (n : UInt64) : asUInt64? (ofDecimal n.toNat) = some n := by
  rw [asUInt64?, ofDecimal, ofText, asDecimal?, if_neg (Decimal.ofInt_ne_empty _),
    Decimal.readUInt64_ofInt]
  rfl

@[simp] theorem asInt64?_ofDecimal (n : Int64) : asInt64? (ofDecimal n.toInt) = some n := by
  rw [asInt64?, ofDecimal, ofText, asDecimal?, if_neg (Decimal.ofInt_ne_empty _),
    Decimal.readInt64_ofInt]
  rfl

@[simp] theorem asBytes?_ofBytes (bytes : Bytes) : asBytes? (ofBytes bytes) = some bytes :=
  Base64.decode?_encode bytes

@[simp] theorem asText?_ofText (content : String) : asText? (ofText content) = some content := rfl

@[simp] theorem asBoolean?_boolean (b : Bool) : asBoolean? (.boolean b) = some b := rfl

theorem asList?_map {α : Type} {write : α → JsonValue} {read? : JsonValue → Option α}
    (h : ∀ a, read? (write a) = some a) (items : List α) :
    asList? read? (.array (items.map write)) = some items := by
  rw [asList?]
  induction items with
  | nil => rfl
  | cons item items ih => simp [List.mapM_cons, h, ih]

end JsonValue

open JsonRecord JsonValue

/-! ## Documents -/

theorem MultiPathRecord.ofJson?_toJson (record : MultiPathRecord) :
    ofJson? record.toJson = some record := by
  rw [ofJson?, toJson, ofValue?_ofMembers _ (by simp)]
  simp [field?, get?_ofMembers, List.lookup_cons]

theorem Hop.ofJson?_toJson (hop : Hop) : ofJson? hop.toJson = some hop := by
  obtain ⟨channelId, amount, fee, expiry, key, tlv, record⟩ := hop
  rw [ofJson?, toJson, ofValue?_ofMembers _ (by cases record <;> simp)]
  cases record with
  | none => simp [field?, get?_ofMembers, List.lookup_cons]
  | some record =>
    have hrecord : asOptional? MultiPathRecord.ofJson? record.toJson = some (some record) :=
      congrArg (Option.map some) record.ofJson?_toJson
    simp [field?, get?_ofMembers, List.lookup_cons, hrecord]

theorem Route.ofJson?_toJson (route : Route) : ofJson? route.toJson = some route := by
  have hhops := asList?_map Hop.ofJson?_toJson route.hops
  rw [ofJson?, toJson, ofValue?_ofMembers _ (by simp)]
  simp [field?, get?_ofMembers, List.lookup_cons, hhops]

/-! ## Texts of documents -/

namespace JsonValue

theorem plain_ofMembers {members : List (String × JsonValue)}
    (h : ∀ member ∈ members, member.2.Plain) : (ofMembers members).Plain := by
  refine .object (fun member hmember => ?_) fun member hmember => ?_
  all_goals obtain ⟨original, horiginal, rfl⟩ := List.mem_map.1 hmember
  · rfl
  · exact h original horiginal

theorem plain_ofText (content : String) : (ofText content).Plain := .text content

theorem plain_ofDecimal (n : Int) : (ofDecimal n).Plain := .text _

theorem plain_ofBytes (bytes : Bytes) : (ofBytes bytes).Plain := .text _

end JsonValue

theorem MultiPathRecord.plain_toJson (record : MultiPathRecord) : record.toJson.Plain := by
  refine plain_ofMembers ?_
  simp [plain_ofBytes, plain_ofDecimal]

theorem Hop.plain_toJson (hop : Hop) : hop.toJson.Plain := by
  refine plain_ofMembers ?_
  cases hop.multiPath <;>
    simp [plain_ofText, plain_ofDecimal, Plain.integer, Plain.boolean, MultiPathRecord.plain_toJson]

theorem Route.plain_toJson (route : Route) : route.toJson.Plain := by
  have hhops : (JsonValue.array (route.hops.map Hop.toJson)).Plain := by
    refine .array fun item hitem => ?_
    obtain ⟨hop, -, rfl⟩ := List.mem_map.1 hitem
    exact hop.plain_toJson
  refine plain_ofMembers ?_
  simp [plain_ofDecimal, Plain.integer, hhops]

/-- A route that is written in JSON is read as the same route, from the document and from the text
of the document. -/
theorem Route.json_round_trip (route : Route) :
    ofJson? route.toJson = some route ∧
      (JsonValue.parse? route.toJson.render).bind ofJson? = some route := by
  refine ⟨route.ofJson?_toJson, ?_⟩
  rw [route.plain_toJson.parse?_render, Option.bind_some, route.ofJson?_toJson]

end LiquidityClient
