import DualSleeve.Exchange.BinanceRest
import DualSleeve.Library.PercentEncoding

namespace DualSleeve

open Library

def utf8 (text : String) : List PercentEncoding.Byte := text.toUTF8.data.toList.map UInt8.toFin

def textOfUtf8? (bytes : List PercentEncoding.Byte) : Option String :=
  String.fromUTF8? ⟨(bytes.map UInt8.ofFin).toArray⟩

theorem textOfUtf8_utf8 (text : String) : textOfUtf8? (utf8 text) = some text := by
  have hbytes : (⟨((utf8 text).map UInt8.ofFin).toArray⟩ : ByteArray) = text.toByteArray := by
    unfold utf8
    rw [List.map_map]
    have hid : UInt8.ofFin ∘ UInt8.toFin = id := funext fun _ => rfl
    rw [hid, List.map_id]
    rfl
  unfold textOfUtf8?
  rw [hbytes, String.fromUTF8?, dif_pos text.isValidUTF8]
  rfl

-- The params of a call, as a dict: keys and the `str` of their values, in turn.
abbrev Params := List (String × String)

-- `urllib.parse.urlencode(params)`
def urlencode (params : Params) : String :=
  String.ofList (PercentEncoding.encodeQuery (params.map fun param => (utf8 param.1, utf8 param.2)))

-- What a query says to its reader.
def parseQuery (query : String) : Option Params :=
  (PercentEncoding.decodeQuery query.toList).mapM fun pair => do
    let key ← textOfUtf8? pair.1
    let value ← textOfUtf8? pair.2
    return (key, value)

theorem parseQuery_urlencode (params : Params) : parseQuery (urlencode params) = some params := by
  unfold parseQuery urlencode
  rw [String.toList_ofList, PercentEncoding.decodeQuery_encodeQuery, List.mapM_map]
  induction params with
  | nil => rfl
  | cons param params ih =>
    rw [List.mapM_cons, ih]
    simp [textOfUtf8_utf8]

theorem urlencode_injective : Function.Injective urlencode := by
  intro params other h
  have hread := congrArg parseQuery h
  rwa [parseQuery_urlencode, parseQuery_urlencode, Option.some.injEq] at hread

namespace Params

-- `params.setdefault(key, value)`
def setDefault (params : Params) (key value : String) : Params :=
  if key ∈ params.map Prod.fst then params else params ++ [(key, value)]

-- `params[key] = value`
def setItem (params : Params) (key value : String) : Params :=
  if key ∈ params.map Prod.fst then params.map fun param => if param.1 = key then (key, value) else param
  else params ++ [(key, value)]

variable {params : Params} {key value : String}

theorem prefix_setDefault (params : Params) (key value : String) : params <+: params.setDefault key value := by
  unfold setDefault
  split
  · exact List.prefix_refl params
  · exact List.prefix_append params _

theorem mem_keys_setDefault {other : String} :
    other ∈ (params.setDefault key value).map Prod.fst ↔ other ∈ params.map Prod.fst ∨ other = key := by
  unfold setDefault
  split
  · rename_i hmem
    exact ⟨.inl, fun h => h.elim id fun he => he ▸ hmem⟩
  · rw [List.map_append, List.mem_append, List.map_singleton, List.mem_singleton]

theorem nodup_keys_setDefault (h : (params.map Prod.fst).Nodup) :
    ((params.setDefault key value).map Prod.fst).Nodup := by
  unfold setDefault
  split
  · exact h
  · rename_i hfree
    rw [List.map_append]
    exact h.append (List.nodup_singleton _) (by simpa using hfree)

end Params

structure BinanceCredentials where
  apiKey : String
  apiSecret : String

namespace BinanceRest

section Signed

-- `hmac.new(secret, query, sha256).hexdigest()`, on the texts of both.
variable (hmac : String → String → String)

def signParams (params : Params) (apiSecret : String) : String :=
  hmac apiSecret (urlencode (params.filter (·.1 ≠ "signature")))

-- The params `_request` sends with a signed call.
def signedParams (credentials : BinanceCredentials) (recvWindow timestamp : ℤ) (params : Params) : Params :=
  let params := params.setDefault "recvWindow" (toString recvWindow)
  let params := params.setDefault "timestamp" (toString timestamp)
  params.setItem "signature" (signParams hmac params credentials.apiSecret)

variable (credentials : BinanceCredentials) (recvWindow timestamp : ℤ)

-- What a signature is over: all that is sent but the signature itself.
def covered (params : Params) : Params :=
  (params.setDefault "recvWindow" (toString recvWindow)).setDefault "timestamp" (toString timestamp)

variable {params : Params}

theorem signature_notMem_covered (h : "signature" ∉ params.map Prod.fst) :
    "signature" ∉ (covered recvWindow timestamp params).map Prod.fst := by
  unfold covered
  rw [Params.mem_keys_setDefault, Params.mem_keys_setDefault]
  simp [h]

theorem signParams_of_notMem (h : "signature" ∉ params.map Prod.fst) (apiSecret : String) :
    signParams hmac params apiSecret = hmac apiSecret (urlencode params) := by
  have hall : params.filter (·.1 ≠ "signature") = params := by
    rw [List.filter_eq_self]
    intro param hparam
    have hne : param.1 ≠ "signature" := fun he => h (List.mem_map.mpr ⟨param, hparam, he⟩)
    simpa using hne
  rw [signParams, hall]

theorem signedParams_eq (h : "signature" ∉ params.map Prod.fst) :
    signedParams hmac credentials recvWindow timestamp params = covered recvWindow timestamp params ++
      [("signature", hmac credentials.apiSecret (urlencode (covered recvWindow timestamp params)))] := by
  have hfree := signature_notMem_covered recvWindow timestamp h
  unfold signedParams Params.setItem
  dsimp only
  rw [← covered, if_neg hfree, signParams_of_notMem hmac hfree]

-- A signed call sends its own params first, a window and a time, each once, and a signature
-- over all of these: whoever reads the signed text reads these params and no others, and
-- signing what was sent gives the signature again.
theorem signed_covers (hkeys : (params.map Prod.fst).Nodup) (hfree : "signature" ∉ params.map Prod.fst) :
    ∃ signed signature,
      signedParams hmac credentials recvWindow timestamp params = signed ++ [("signature", signature)] ∧
      signature = hmac credentials.apiSecret (urlencode signed) ∧
      params <+: signed ∧ (signed.map Prod.fst).Nodup ∧
      (∀ key, key ∈ signed.map Prod.fst ↔ key ∈ params.map Prod.fst ∨ key = "recvWindow" ∨ key = "timestamp") ∧
      parseQuery (urlencode signed) = some signed ∧
      (∀ other, urlencode other = urlencode signed → other = signed) ∧
      signParams hmac (signedParams hmac credentials recvWindow timestamp params) credentials.apiSecret =
        signature := by
  refine ⟨covered recvWindow timestamp params, _, signedParams_eq hmac credentials recvWindow timestamp hfree,
    rfl, ?_, ?_, ?_, parseQuery_urlencode _, fun _ h => urlencode_injective h, ?_⟩
  · exact (Params.prefix_setDefault params _ _).trans (Params.prefix_setDefault _ _ _)
  · exact Params.nodup_keys_setDefault (Params.nodup_keys_setDefault hkeys)
  · intro key
    unfold covered
    rw [Params.mem_keys_setDefault, Params.mem_keys_setDefault, or_assoc]
  · have hcovered := signature_notMem_covered recvWindow timestamp hfree
    rw [signedParams_eq hmac credentials recvWindow timestamp hfree, signParams, List.filter_append]
    have hdropped : List.filter (fun param : String × String => decide (param.1 ≠ "signature"))
        [("signature", hmac credentials.apiSecret (urlencode (covered recvWindow timestamp params)))] = [] := by
      simp
    rw [hdropped, List.append_nil]
    exact signParams_of_notMem hmac hcovered _

end Signed

-- A symbol that reads like further params is read as the symbol.
theorem signed_covers_sample :
    ∃ signed, parseQuery (urlencode signed) = some signed ∧
      [("symbol", "BTCUSDT&side=SELL")] <+: signed ∧ "side" ∉ signed.map Prod.fst := by
  have hkeys : ([("symbol", "BTCUSDT&side=SELL")].map Prod.fst : List String).Nodup := by decide
  obtain ⟨signed, _, -, -, hprefix, -, hmem, hread, -⟩ := signed_covers (fun secret query => secret ++ query)
    ⟨"key", "secret"⟩ 5000 1767225600000 hkeys (by decide)
  exact ⟨signed, hread, hprefix, by rw [hmem]; decide⟩

end BinanceRest

end DualSleeve
