import LanguageClient.Message
import Mathlib.Data.List.Nodup

/-!
# Fields of messages

What stands at each name in the messages that a client writes.
-/

namespace LanguageClient

/-- Entries with different keys are put in beside one another. -/
lemma Table.find?_foldl_insert {α : Type} {entries : Table α} (h : (entries.map (·.1)).Nodup)
    (key : String) (t : Table α) :
    Table.find? key (entries.foldl (fun t e => Table.insert e.1 e.2 t) t) =
      (Table.find? key entries <|> Table.find? key t) := by
  induction entries generalizing t with
  | nil => rfl
  | cons e entries ih =>
    obtain ⟨hnew, hrest⟩ := List.nodup_cons.mp h
    rw [List.foldl_cons, ih hrest, Table.find?_insert, Table.find?]
    by_cases he : e.1 = key
    · have hnone : Table.find? key entries = none :=
        Table.find?_eq_none fun e' he' heq => hnew (List.mem_map.mpr ⟨e', he', heq.trans he.symm⟩)
      rw [if_pos he, if_pos he, hnone]
      rfl
    · rw [if_neg he, if_neg he]

/-- Fields with different names stand in an object as they were given. -/
lemma Json.get?_ofFields {fields : List (String × Json)} (h : (fields.map (·.1)).Nodup)
    (name : String) : (Json.ofFields fields).get? name = Table.find? name fields := by
  refine (Table.find?_foldl_insert h name []).trans ?_
  rw [Table.find?_nil]
  cases Table.find? name fields <;> rfl

namespace Message

variable {id result : Json} {method : String} {params : Option Json}

lemma get?_request (name : String) {n : Nat} :
    (request n method params).get? name =
      if name = "jsonrpc" then some (.str "2.0")
      else if name = "id" then some (.ofNat n)
      else if name = "method" then some (.str method)
      else if name = "params" then params else none := by
  cases params <;> rw [request, Json.get?_ofFields (by simp [version, field?])] <;>
    simp [Table.find?, version, field?, eq_comm (b := name)]

lemma get?_notification (name : String) :
    (notification method params).get? name =
      if name = "jsonrpc" then some (.str "2.0")
      else if name = "method" then some (.str method)
      else if name = "params" then params else none := by
  cases params <;> rw [notification, Json.get?_ofFields (by simp [version, field?])] <;>
    simp [Table.find?, version, field?, eq_comm (b := name)]

lemma get?_response (name : String) :
    (response id result).get? name =
      if name = "jsonrpc" then some (.str "2.0")
      else if name = "id" then some id else if name = "result" then some result else none := by
  rw [response, Json.get?_ofFields (by simp [version])]
  simp [Table.find?, version, eq_comm (b := name)]

lemma get?_errorResponse (name : String) {code : Int} {message : String} :
    (errorResponse id code message).get? name =
      if name = "jsonrpc" then some (.str "2.0")
      else if name = "id" then some id
      else if name = "error" then
        some (.ofFields [("code", .int code), ("message", .str message)])
      else none := by
  rw [errorResponse, Json.get?_ofFields (by simp [version])]
  simp [Table.find?, version, eq_comm (b := name)]

end Message

open Message

lemma get?_method_notification (method : String) (params : Option Json) :
    (notification method params).get? "method" = some (.str method) := by
  simp [get?_notification]

lemma get?_params_notification (method : String) (params : Json) :
    (notification method (some params)).get? "params" = some params := by
  simp [get?_notification]

lemma get?_method_request (id : Nat) (method : String) (params : Option Json) :
    (request id method params).get? "method" = some (.str method) := by
  simp [get?_request]

/-- Replies have no method. -/
lemma get?_method_reply (id : Json) (method : String) (params : Option Json) :
    (reply id method params).get? "method" = none := by
  unfold reply
  split_ifs <;> simp [get?_response, get?_errorResponse]

end LanguageClient
