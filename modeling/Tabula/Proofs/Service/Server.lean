import Mathlib.Data.List.TakeWhile
import Tabula.Proofs.Text.Classes
import Tabula.Proofs.Web.Server
import Tabula.Service

/-!
The service on a framework.

A name of word characters is one part of a path. Nothing in it is escaped, ends the path or leads
back, so the path below the tables leads to the table of that name and to nothing else. The other
endpoints are found under their own paths.
-/

namespace Tabula.Service

open Text Web Web.Server

variable {name : String}

/-- Characters of words are none of those that mean something in a path. -/
lemma notMem_of_isName (h : IsName name) {c : Char} (hc : isWordChar c = false) :
    c ∉ name.toList := by
  intro hm
  rw [h.2 c hm] at hc
  cases hc

/-- The path of a table. -/
def tablePath (name : String) : List Char := "/tables/".toList ++ name.toList

lemma notMem_tablePath (h : IsName name) {c : Char} (hc : isWordChar c = false)
    (hs : c ∉ "/tables/".toList) : c ∉ tablePath name :=
  fun hm => (List.mem_append.1 hm).elim hs (notMem_of_isName h hc)

/-- The path ends with the target. -/
lemma takeWhile_tablePath (h : IsName name) :
    (tablePath name).takeWhile (fun c => c != '?' && c != '#') = tablePath name := by
  rw [List.takeWhile_eq_self_iff]
  intro c hc
  have hquestion : c ≠ '?' := by
    rintro rfl
    exact notMem_tablePath h (by decide) (by decide) hc
  have hfragment : c ≠ '#' := by
    rintro rfl
    exact notMem_tablePath h (by decide) (by decide) hc
  simp [hquestion, hfragment]

/-- No part of the path leads back. -/
lemma foldl_follow_tablePath (h : IsName name) :
    ((tablePath name).splitOn '/').foldl follow [] = (tablePath name).splitOn '/' := by
  have hname : name.toList.splitOn '/' = [name.toList] :=
    List.splitOn_eq_singleton (notMem_of_isName h (by decide))
  have hpath : tablePath name = [] ++ '/' :: ("tables".toList ++ '/' :: name.toList) := rfl
  have hdot : '.' ∉ name.toList := notMem_of_isName h (by decide)
  have hone : name.toList ≠ ['.'] := fun he => hdot (by simp [he])
  have htwo : name.toList ≠ ['.', '.'] := fun he => hdot (by simp [he])
  rw [hpath, List.splitOn_append_cons_self, List.splitOn_append_cons_self, hname]
  change follow [[], "tables".toList] name.toList = _
  rw [follow, if_neg hone, if_neg htwo]
  rfl

lemma pathOf_table (h : IsName name) : pathOf ("/tables/" ++ name) = tablePath name := by
  have htarget : ("/tables/" ++ name).toList = tablePath name := String.toList_append
  unfold pathOf
  simp only [htarget, takeWhile_tablePath h]
  -- it has one slash at its start
  change (if ['/'].intercalate (((tablePath name).splitOn '/').foldl follow []) = [] then _
    else ['/'].intercalate (((tablePath name).splitOn '/').foldl follow [])) = _
  rw [foldl_follow_tablePath h, List.intercalate_splitOn]
  exact if_neg (List.cons_ne_nil _ _)

lemma isPrefixOf_tablePath (name : String) : "/tables/".toList.isPrefixOf (tablePath name) = true :=
  List.isPrefixOf_iff_prefix.2 (List.prefix_append _ _)

/-- The path of a table is none that does not start in the same way. -/
lemma tablePath_ne {path : List Char} (h : "/tables/".toList.isPrefixOf path = false) :
    tablePath name ≠ path := by
  rintro rfl
  rw [isPrefixOf_tablePath] at h
  cases h

lemma withoutLineEnd_tablePath (h : IsName name) :
    withoutLineEnd (tablePath name) = tablePath name :=
  if_neg fun hlast =>
    notMem_tablePath h (by decide) (by decide) (List.mem_of_getLast? hlast)

lemma isPage_tablePath (h : IsName name) : isPage (tablePath name) = false := by
  rw [isPage, withoutLineEnd_tablePath h, List.contains_eq_mem, decide_eq_false_iff_not]
  intro hm
  have hall : ∀ page ∈ pages, "/tables/".toList.isPrefixOf page.toList = false := by decide
  exact tablePath_ne (hall _ hm) String.toList_ofList.symm

/-- **A name of word characters is found below the tables**, and nothing else is there. -/
lemma found_table (h : IsName name) : ∃ e, found app (tablePath name) = [(e, name)] ∧
    e = ⟨"GET", "/tables/", .ofPath fun name p =>
      (p, (p.1.database.table name).map tableContent)⟩ := by
  have hname : (tablePath name).drop "/tables/".toList.length = name.toList := List.drop_left
  have hslash : '/' ∉ name.toList := notMem_of_isName h (by decide)
  have hne : name.toList ≠ [] := mt String.toList_eq_nil_iff.1 h.1
  have hother : ∀ path : String, "/tables/".toList.isPrefixOf path.toList = false →
      (withoutLineEnd (tablePath name) = path.toList) = False := by
    intro path hp
    rw [withoutLineEnd_tablePath h, eq_iff_iff, iff_false]
    exact tablePath_ne hp
  refine ⟨_, ?_, rfl⟩
  unfold found app
  simp only [List.filterMap_cons, List.filterMap_nil, rest?, hother "/" (by decide),
    hother "/query" (by decide), hother "/tables" (by decide), hname, isPrefixOf_tablePath]
  simp [hslash, hne]

lemma handle_eq_serve {r : Request} (h : r.method ≠ "HEAD") (s : State) :
    server.handle app s r = serve app s r := by
  simp only [server, if_neg h]

/-- The other endpoints are found under their paths, and nothing else is. -/
lemma found_root : found app "/".toList =
    [(⟨"GET", "/", .plain fun p => (p, .ok rootContent)⟩, "")] := rfl

lemma found_query : found app "/query".toList =
    [(⟨"POST", "/query", .ofBody "query" query⟩, "")] := rfl

lemma found_tables : found app "/tables".toList =
    [(⟨"GET", "/tables", .plain fun p => (p, .ok (tablesContent p.1.database))⟩, "")] := rfl

/-- Every request that there is an endpoint for is handed to it. -/
lemma handle_takes {e : Endpoint State} {r : Request}
    {run : State → State × Except Failure Content} (he : e ∈ app.endpoints) (h : e.Takes r run)
    (s : State) : server.handle app s r = conclude app (run s) := by
  have hroot : pathOf "/" = "/".toList := by decide
  have hquery : pathOf "/query" = "/query".toList := by decide
  have htables : pathOf "/tables" = "/tables".toList := by decide
  simp only [app, List.mem_cons, List.not_mem_nil, or_false] at he
  rcases he with rfl | rfl | rfl | rfl
  · cases h with
    | plain body =>
      rw [handle_eq_serve (by simp)]
      exact serve_of_found hroot (by decide) (by decide) found_root s body
  · cases h with
    | ofBody hbody =>
      rw [handle_eq_serve (by simp)]
      refine (serve_of_found hquery (by decide) (by decide) found_query s _).trans ?_
      simp only [Server.run, readMember_of_carries hbody]
  · cases h with
    | plain body =>
      rw [handle_eq_serve (by simp)]
      exact serve_of_found htables (by decide) (by decide) found_tables s body
  · cases h with
    | ofPath body hname =>
      obtain ⟨e, hfound, rfl⟩ := found_table hname
      rw [handle_eq_serve (by simp)]
      exact serve_of_found (pathOf_table hname) (notMem_tablePath hname (by decide) (by decide))
        (isPage_tablePath hname) hfound s body

/-- **There is a framework that serves the service.** -/
theorem server_serves_app : server.Serves app := server_serves handle_takes

end Tabula.Service
