import ContentRules.Safari.DomainCondition
import ContentRules.Safari.LoadType
import ContentRules.Safari.ResourceType
import ContentRules.Safari.UrlHost

/-!
Requests of pages. A request goes to the page's own site if its host is the page's host, lies below
it or above it.
-/

namespace ContentRules

/-- A request as a rule list sees it. -/
structure Request where
  url : String
  /-- The host of the page that makes the request. -/
  pageHost : String
  resourceTypes : ResourceTypes
  loadTypes : LoadTypes

namespace Request

/-- The host belongs to the site of the page. -/
def sameSite (host pageHost : List Char) : Bool :=
  Domain.covers pageHost host || Domain.covers host pageHost

/-- The relation between a URL and the page that asks for it. -/
def loadType (url pageHost : String) : LoadType :=
  match UrlHost.ofUrl? url.toList with
  | some host => if sameSite host pageHost.toList then .firstParty else .thirdParty
  | none => .thirdParty

/-- The request of a page for a URL. -/
def ofPage (url pageHost : String) (resourceTypes : ResourceTypes) : Request :=
  { url, pageHost, resourceTypes, loadTypes := .single (loadType url pageHost) }

end Request

end ContentRules
