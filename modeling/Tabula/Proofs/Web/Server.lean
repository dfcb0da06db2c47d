import Mathlib.Tactic.Lemma
import Tabula.Proofs.Json.Depth
import Tabula.Proofs.Json.RoundTrip
import Tabula.Proofs.Text.Encoding
import Tabula.Proofs.Web.Framework
import Tabula.Web.Server

/-!
A framework that is as specified.

A path without percent signs is decoded to itself. The text that a body carries is read from it, and
every text is carried by some body. What can be encoded is sent as its document. So a framework
serves an application if it finds the endpoint of every request that there is one for.
-/

namespace Tabula

/-! ### Scalars -/

namespace Json

mutual

/-- A document without a scalar that is replaced stays as it is. -/
lemma mapScalars_eq {f : Value → Value} :
    ∀ j : Json, (∀ v ∈ j.scalars, f v = v) → j.mapScalars f = j
  | scalar v, h => by rw [mapScalars, h v (List.mem_singleton_self v)]
  | array items, h => by rw [mapScalars, mapItems_eq items h]
  | object members, h => by rw [mapScalars, mapMembers_eq members h]

lemma mapItems_eq {f : Value → Value} :
    ∀ xs : List Json, (∀ v ∈ scalars.ofItems xs, f v = v) → mapScalars.ofItems f xs = xs
  | [], _ => rfl
  | x :: xs, h => by
    obtain ⟨hx, hxs⟩ := List.forall_mem_append.1 h
    rw [mapScalars.ofItems, mapScalars_eq x hx, mapItems_eq xs hxs]

lemma mapMembers_eq {f : Value → Value} :
    ∀ ms : List (String × Json), (∀ v ∈ scalars.ofMembers ms, f v = v) →
      mapScalars.ofMembers f ms = ms
  | [], _ => rfl
  | (name, x) :: ms, h => by
    obtain ⟨hx, hms⟩ := List.forall_mem_append.1 h
    rw [mapScalars.ofMembers, mapScalars_eq x hx, mapMembers_eq ms hms]

end

end Json

namespace Web

open Text

/-! ### Bodies -/

namespace Server

/-- No mark of a byte order starts with an ASCII character. -/
lemma ofMark?_ascii {a : UInt8} (ha : a.toNat ≠ 0 ∧ a.toNat < 0x80) (bytes : List UInt8) :
    Encoding.ofMark? (a :: bytes) = none := by
  unfold Encoding.ofMark?
  split <;> simp_all

lemma ofZeros_ascii {a b : UInt8} (ha : a.toNat ≠ 0) (hb : b.toNat ≠ 0) (bytes : List UInt8) :
    Encoding.ofZeros (a :: b :: bytes) = .utf8 := by
  unfold Encoding.ofZeros
  split <;> simp_all

/-- Bytes that start with two ASCII characters are UTF-8, without a mark of their order. -/
lemma detect_ascii {a b : UInt8} (ha : a.toNat ≠ 0 ∧ a.toNat < 0x80) (hb : b.toNat ≠ 0)
    (bytes : List UInt8) : Encoding.detect (a :: b :: bytes) = (.utf8, a :: b :: bytes) := by
  rw [Encoding.detect, ofMark?_ascii ha, ofZeros_ascii ha.1 hb, Option.getD_none]

lemma utf8EncodeChar_ascii {c : Char} (h : c.toNat < 0x80) :
    String.utf8EncodeChar c = [UInt8.ofNat c.toNat] := by
  have hle : c.val.toNat ≤ 0x7F := Nat.le_of_lt_succ h
  unfold String.utf8EncodeChar
  exact if_pos hle

/-- A text that starts with two ASCII characters is known to be UTF-8. -/
lemma decode?_toUTF8 {s : String} {a b : Char} {cs : List Char} (h : s.toList = a :: b :: cs)
    (ha : a.toNat ≠ 0 ∧ a.toNat < 0x80) (hb : b.toNat ≠ 0 ∧ b.toNat < 0x80) :
    decode? s.toUTF8.toList = some s := by
  have hbytes : s.toUTF8.toList = UInt8.ofNat a.toNat :: UInt8.ofNat b.toNat :: utf8 cs := by
    rw [toList_toUTF8, h, utf8_cons, utf8_cons, utf8EncodeChar_ascii ha.2, utf8EncodeChar_ascii hb.2]
    rfl
  have hwhole : ByteArray.mk s.toUTF8.toList.toArray = s.toUTF8 := by
    rw [toList_eq, Array.toArray_toList]
  have hbyte : ∀ c : Char, c.toNat ≠ 0 ∧ c.toNat < 0x80 →
      (UInt8.ofNat c.toNat).toNat ≠ 0 ∧ (UInt8.ofNat c.toNat).toNat < 0x80 := by
    intro c hc
    rwa [toNat_ofNat (by omega)]
  rw [decode?, hbytes, detect_ascii (hbyte a ha) (hbyte b hb).1, ← hbytes]
  dsimp only
  rw [Encoding.decode?, hwhole, fromUTF8?_toUTF8]

/-- What comes before what is no blank are blanks. -/
lemma skipBlanks_eq_cons {cs rest : List Char} {c : Char} (h : Json.skipBlanks cs = c :: rest) :
    ∃ d tail, cs = d :: tail ∧
      ((d ∈ [' ', '\t', '\n', '\r'] ∧ Json.skipBlanks tail = c :: rest) ∨ (d = c ∧ tail = rest)) := by
  cases cs with
  | nil => cases h
  | cons d tail =>
    refine ⟨d, tail, rfl, ?_⟩
    rw [Json.skipBlanks, List.dropWhile_cons] at h
    split_ifs at h with hd
    · refine .inl ⟨?_, h⟩
      simpa [or_assoc] using hd
    · cases h
      exact .inr ⟨rfl, rfl⟩

/-- An object that is not empty starts with a brace and a quote. -/
lemma skipBlanks_of_object {fuel limit : Nat} {cs rest : List Char} {m : Wide × Document}
    {ms : List (Wide × Document)}
    (h : Json.readValue fuel limit cs = .ok (.object (m :: ms), rest)) :
    ∃ after tail, cs = '\x7b' :: after ∧ Json.skipBlanks after = '\x22' :: tail := by
  cases fuel with
  | zero => cases h
  | succ fuel =>
    unfold Json.readValue at h
    split at h
    · obtain ⟨_, -, h⟩ := bind_eq_ok.1 h
      cases h
    · split_ifs at h
      split at h
      · cases h
      · obtain ⟨_, -, h⟩ := bind_eq_ok.1 h
        cases h
    · split_ifs at h
      split at h
      · cases h
      · rename_i after _
        obtain ⟨⟨found, rest'⟩, hmembers, -⟩ := bind_eq_ok.1 h
        cases fuel with
        | zero => cases hmembers
        | succ fuel =>
          unfold Json.readMembers at hmembers
          split at hmembers
          · rename_i hskip
            exact ⟨_, _, rfl, hskip⟩
          · cases hmembers
    · obtain ⟨_, -, h⟩ := bind_eq_ok.1 h
      cases h

/-- The text of an object that is not empty starts with two ASCII characters. -/
lemma startsInAscii {s : String} {limit : Nat} {m : Wide × Document}
    {ms : List (Wide × Document)} (h : Json.readDocument limit s = .ok (.object (m :: ms))) :
    ∃ a b cs, s.toList = a :: b :: cs ∧ (a.toNat ≠ 0 ∧ a.toNat < 0x80) ∧
      b.toNat ≠ 0 ∧ b.toNat < 0x80 := by
  obtain ⟨⟨d, rest⟩, hread, h⟩ := bind_eq_ok.1 h
  obtain rfl : d = .object (m :: ms) := by
    dsimp only at h
    split at h
    · exact Except.ok.inj h
    · cases h
  obtain ⟨after, tail, hcs, hafter⟩ := skipBlanks_of_object hread
  have hascii : ∀ c : Char, c ∈ [' ', '\t', '\n', '\r', '\x7b', '\x22'] →
      c.toNat ≠ 0 ∧ c.toNat < 0x80 := by simp
  have hblank : ∀ {c : Char}, c ∈ [' ', '\t', '\n', '\r'] → c.toNat ≠ 0 ∧ c.toNat < 0x80 :=
    fun hc => hascii _ (List.mem_append_left _ hc)
  obtain ⟨a, cs, hs, ⟨ha, hcs⟩ | ⟨rfl, rfl⟩⟩ := skipBlanks_eq_cons hcs
  · obtain ⟨b, cs, rfl, ⟨hb, -⟩ | ⟨rfl, -⟩⟩ := skipBlanks_eq_cons hcs
    · exact ⟨a, b, cs, hs, hblank ha, hblank hb⟩
    · exact ⟨a, _, cs, hs, hblank ha, hascii _ (by decide)⟩
  · obtain ⟨b, cs, rfl, ⟨hb, -⟩ | ⟨rfl, -⟩⟩ := skipBlanks_eq_cons hafter
    · exact ⟨_, b, cs, hs, hascii _ (by decide), hblank hb⟩
    · exact ⟨_, _, cs, hs, hascii _ (by decide), hascii _ (by decide)⟩

/-- A body that carries a text is read as that text. -/
lemma readMember_of_carries {body : List UInt8} {member text : String}
    (h : Carries body member text) : readMember member body = .ok text := by
  obtain ⟨s, rfl, hread⟩ := h
  obtain ⟨a, b, cs, hs, ha, hb⟩ := startsInAscii hread
  have hdeepest : Json.readDocument Json.deepest s =
      .ok (.object [(.ofString member, .text (.ofString text))]) := by
    rcases Json.settles_readDocument (by decide : 1 ≤ Json.deepest) s with h | h
    · rw [h] at hread
      cases hread
    · rw [h, hread]
  have hdecode := decode?_toUTF8 hs ha hb
  have hempty : s.toUTF8.toList ≠ [] := by
    rw [toList_toUTF8, hs, utf8_cons, utf8EncodeChar_ascii ha.2]
    exact List.cons_ne_nil _ _
  have hmember : (Document.object [(.ofString member, .text (.ofString text))]).member? member =
      some (.text (.ofString text)) := by
    rw [Document.member?, Keyed.find?_cons, Key.same_refl]
    rfl
  rw [readMember, if_neg hempty, hdecode]
  simp only [hdeepest, hmember]
  simp only [Document.text, Wide.string?_ofString]

end Server

/-- Every text can be carried. -/
lemma exists_carries (member text : String) : ∃ body, Carries body member text := by
  have hfits : Json.Fits 1 (.object [(member, .text text)]) :=
    .object (List.pairwise_singleton _ _) (List.forall_mem_singleton.2 (.scalar trivial))
  exact ⟨_, _, rfl, Json.readDocument_writeAt hfits⟩

namespace Server

/-! ### Decoding -/

/-- Without a percent sign, a path stands for its own bytes. -/
lemma pathBytes_eq {cs : List Char} (h : '%' ∉ cs) : pathBytes cs = utf8 cs := by
  induction cs with
  | nil =>
    rw [pathBytes]
    rfl
  | cons c cs ih =>
    obtain ⟨hc, hcs⟩ := not_or.1 (mt List.mem_cons.2 h)
    have hsingle : (String.singleton c).toUTF8.toList = String.utf8EncodeChar c := by
      rw [toList_toUTF8, String.toList_singleton, utf8_cons, utf8_nil, List.append_nil]
    rw [pathBytes, ih hcs, hsingle, utf8_cons]
    rintro _ _ _ rfl -
    exact hc rfl

lemma decodePath_eq {cs : List Char} (h : '%' ∉ cs) : decodePath cs = cs := by
  rw [decodePath, pathBytes_eq h, decodeLeniently_utf8]

variable {σ : Type} {app : App σ} {e : Endpoint σ} {target rest : String} {path : List Char}

/-- Where one endpoint is found, it answers. -/
lemma serve_of_found (hpath : pathOf target = path) (hpercent : '%' ∉ path)
    (hpage : isPage path = false) (hfound : found app path = [(e, rest)]) (s : σ)
    (body : List UInt8) :
    serve app s ⟨e.method, target, body⟩ = run app s body rest e.handler := by
  have hlocate : locate app target = path := by
    rw [locate, hpath, decodePath_eq hpercent, decodePath_eq hpercent, hfound]
    simp
  unfold serve
  simp only [hlocate, hpage, hfound]
  simp

/-! ### Encoding -/

/-- A value that can be encoded is sent as it is. -/
lemma sent_of_encodes {v : Value} (h : Content.encodes v = true) : sent v = v := by
  cases v with
  | null | bool _ | int _ | text _ => rfl
  | real x => exact if_pos h

lemma sent?_document {j : Json} (h : ∀ v ∈ j.scalars, Content.encodes v = true) :
    sent? (.document j) = some j := by
  have hwritable : j.isWritable = true := by
    rw [Json.isWritable, List.all_eq_true]
    intro v hv
    cases v with
    | int n =>
      have hn := h (.int n) hv
      simpa [Content.encodes] using hn
    | null | bool _ | real _ | text _ => rfl
  rw [sent?, if_pos hwritable, Json.mapScalars_eq j fun v hv => sent_of_encodes (h v hv)]

mutual

/-- Content that can be encoded is sent as its document. -/
lemma sent?_of_json? : ∀ {c : Content} {j : Json}, c.json? Label.plain = some j → sent? c = some j
  | .document d, j, h => by
    rw [Content.json?] at h
    split_ifs at h with hall
    cases h
    exact sent?_document (List.all_eq_true.1 hall)
  | .count n, j, h => h
  | .list items, j, h => by
    obtain ⟨js, hjs, rfl⟩ := Option.map_eq_some_iff.1 h
    rw [sent?, sentItems hjs]
    rfl
  | .dict members, j, h => by
    obtain ⟨ms, hms, rfl⟩ := Option.map_eq_some_iff.1 h
    rw [sent?, sentMembers hms]
    rfl

lemma sentItems : ∀ {items : List Content} {js : List Json},
    Content.json?.ofItems Label.plain items = some js → sent?.ofItems items = some js
  | [], _, h => h
  | x :: xs, js, h => by
    obtain ⟨j, hj, h⟩ := Option.bind_eq_some_iff.1 h
    obtain ⟨js', hjs, h⟩ := Option.bind_eq_some_iff.1 h
    cases h
    rw [sent?.ofItems, sent?_of_json? hj, sentItems hjs]
    rfl

lemma sentMembers : ∀ {members : List (Label × Content)} {ms : List (String × Json)},
    Content.json?.ofMembers Label.plain members = some ms → sent?.ofMembers members = some ms
  | [], _, h => h
  | (l, x) :: xs, ms, h => by
    rw [Content.json?.ofMembers] at h
    split_ifs at h
    obtain ⟨j, hj, h⟩ := Option.bind_eq_some_iff.1 h
    obtain ⟨ms', hms, h⟩ := Option.bind_eq_some_iff.1 h
    cases h
    rw [sent?.ofMembers, sent?_of_json? hj, sentMembers hms]
    rfl

end

lemma send_of_json? {c : Content} {j : Json} (h : c.json? Label.plain = some j) (status : Nat) :
    send status c = ⟨status, some j⟩ := by
  rw [send, sent?_of_json? h]

end Server

/-! ### Serving -/

variable {σ : Type} {app : App σ}

/-- A request changes nothing, or an endpoint of its method does something. -/
lemma server_reaches (app : App σ) (s : σ) (r : Request) : (server.handle app s r).1 = s ∨
    ∃ e ∈ app.endpoints, e.method = r.method ∧
      ∃ run, e.handler.Offers run ∧ (server.handle app s r).1 = (run s).1 := by
  change (Server.serve app s r).1 = s ∨ ∃ e ∈ app.endpoints, _ ∧ ∃ run, _ ∧
    (Server.serve app s r).1 = _
  unfold Server.serve
  dsimp only
  split_ifs
  · exact .inl rfl
  · exact .inl rfl
  split
  · exact .inl rfl
  · rename_i here hfound
    split
    · exact .inl rfl
    · rename_i e rest hfind
      have hmethod : e.method = r.method := by simpa using List.find?_some hfind
      have hmem : e ∈ app.endpoints := by
        obtain ⟨d, hd, hde⟩ := List.mem_filterMap.1 (List.mem_of_find?_eq_some hfind)
        obtain ⟨_, -, hde⟩ := Option.map_eq_some_iff.1 hde
        cases hde
        exact hd
      have hrun : (Server.run app s r.body rest e.handler).1 = s ∨
          ∃ run, e.handler.Offers run ∧
            (Server.run app s r.body rest e.handler).1 = (run s).1 := by
        cases e.handler with
        | plain run => exact .inr ⟨_, .plain run, rfl⟩
        | ofPath run => exact .inr ⟨_, .ofPath run rest, rfl⟩
        | ofBody member run =>
          rw [Server.run]
          split
          · rename_i text _
            exact .inr ⟨_, .ofBody member run text, rfl⟩
          · exact .inl rfl
      exact hrun.imp_right fun hrun => ⟨e, hmem, hmethod, hrun⟩

/-- **The framework serves an application** if it has the endpoint of every request act. -/
theorem server_serves (h : ∀ {e r run}, e ∈ app.endpoints → e.Takes r run → ∀ s,
    server.handle app s r = Server.conclude app (run s)) : server.Serves app where
  names _ := rfl
  runs he ht s := by rw [h he ht]; rfl
  sends he ht s content body hrun hbody := by
    rw [h he ht, Server.conclude, hrun]
    exact Server.send_of_json? hbody 200
  catches he ht s failure status content body hrun hcaught hbody := by
    rw [h he ht, Server.conclude, hrun]
    dsimp only
    rw [hcaught]
    exact Server.send_of_json? hbody status
  fails he ht s failure hrun hcaught := by
    rw [h he ht, Server.conclude, hrun]
    dsimp only
    rw [hcaught]
  reaches := server_reaches app

end Web

end Tabula
