import DiscordRest.Proofs.Http.Credentials
import DiscordRest.Proofs.Http.Endpoint
import DiscordRest.Proofs.Url.Respelling

/-!
What arrives of a query. The pairs that a request was to carry stand in the query of the request
that is sent, each once, behind those that the URL of the path has already; none of them is broken
apart or changed, whatever characters it has.
-/

namespace DiscordRest.Http.Router

variable {router : Router} {method path : String} {options : RequestOptions} {network : Network}
variable {first : Request} {sent : List Request}

/--
The query of the first request that is received has the pairs of the URL's query and those that
the request was to carry, each once.
-/
theorem query_arrives_intact
    (received
      : (router.request method path options network).state.received
        = network.received ++ first :: sent)
    : ∃ url,
        Url.ofText (router.fullUrl path) = .ok url
        ∧ Form.pairs (url.query.getD []) = Form.pairs (Url.writtenQuery (router.fullUrl path))
        ∧ (Form.pairs (first.url.query.getD [])).Perm
            (Form.pairs (url.query.getD []) ++ options.query.entries) := by
  obtain ⟨url, _, _, read, _, _, target, _⟩ := Request.exists_of_make (make_of_received received).1
  refine ⟨url, read, Url.pairs_query_of_ofText read, .of_eq ?_⟩
  rw [target, pairs_addQuery, bare_eq]

/-- A path with a query that is not encoded, percent signs that stand for nothing, and a fragment. -/
def crowdedPath : String := "a?x=é&y='1+2' %zz%41%4 #f"

/-- Pairs of characters that forms are made of, and one of nothing. -/
def crowdedOptions : RequestOptions :=
  ((default : RequestOptions).withQuery "é&=" "+ %").withQuery "" ""

theorem query_arrives_intact_of_crowdedPath
    : ∃ first url,
        ((mockRouter .empty).request "GET" crowdedPath crowdedOptions
          (singleAnswer ⟨200, [], [], true⟩)).state.received = [] ++ first :: []
        ∧ Url.ofText ((mockRouter .empty).fullUrl crowdedPath) = .ok url
        ∧ (Form.pairs (first.url.query.getD [])).Perm
            (Form.pairs (url.query.getD []) ++ crowdedOptions.query.entries)
        ∧ Form.pairs (first.url.query.getD [])
          = [("x", "é"), ("y", "'1 2' %zzA%4 "), ("", ""), ("é&=", "+ %")] := by
  have pairs : ((mockRouter .empty).request "GET" crowdedPath crowdedOptions
        (singleAnswer ⟨200, [], [], true⟩)).state.received.map
          (fun request => Form.pairs (request.url.query.getD []))
      = [[("x", "é"), ("y", "'1 2' %zzA%4 "), ("", ""), ("é&=", "+ %")]] := by
    decide +kernel
  obtain ⟨first, one, shown⟩ := List.map_eq_singleton_iff.mp pairs
  have received : ((mockRouter .empty).request "GET" crowdedPath crowdedOptions
      (singleAnswer ⟨200, [], [], true⟩)).state.received
        = (singleAnswer ⟨200, [], [], true⟩).received ++ first :: [] :=
    one
  obtain ⟨url, read, -, arrives⟩ := query_arrives_intact received
  exact ⟨first, url, one, read, arrives, shown⟩

end DiscordRest.Http.Router
