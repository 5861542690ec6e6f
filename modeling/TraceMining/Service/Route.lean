import TraceMining.Text.Search

/-
  This file defines the routes of the service.  They are
  tried in order; the first that fits method and path answers.
  A path that only lacks a slash at its end, or has one too
  many, is redirected.

  Key definitions include:
    * `Service.Part`
    * `Service.captures?`
    * `Service.Endpoint`
    * `Service.routes`
    * `Service.resolve`
-/

------------------------------------------------------------
-- Templates
------------------------------------------------------------

namespace TraceMining

namespace Service

/- A segment of a template: a fixed text, or any text. -/
inductive Part where
  | fixed (text : String)
  | parameter
  deriving DecidableEq, Repr

/- The last segment may carry a line feed at its end. -/
def sameEnd
    (text : String)
    (cs : List Char) : Bool :=
  cs == text.toList || cs == text.toList ++ ['\n']

/- The texts that segments put for the parameters. -/
def segmentCaptures? :
    List Part → List (List Char) → Option (List String)
  | [], [] => some []
  | [.fixed text], [cs] =>
      if sameEnd text cs then some [] else none
  | .fixed text :: parts, cs :: rest =>
      if cs == text.toList then segmentCaptures? parts rest
      else none
  | .parameter :: parts, cs :: rest =>
      if cs.isEmpty then none
      else
        (segmentCaptures? parts rest).map
          (String.ofList cs :: ·)
  | _, _ => none

/- The texts that a path puts for the parameters. -/
def captures?
    (template : List Part)
    (path : String) : Option (List String) :=
  match Text.pieces '/' path.toList with
  | [] :: segments => segmentCaptures? template segments
  | _ => none

end Service

end TraceMining

------------------------------------------------------------
-- Routes
------------------------------------------------------------

namespace TraceMining

namespace Service

/- What the service can be asked for. -/
inductive Endpoint where
  | startSession
  | logEvent
  | getSession
  | analyze
  | analyzeUnprocessed
  | listDefinitions
  | createDefinition
  | updateDefinition
  | deleteDefinition
  | reloadDefinitions
  | listPatterns
  | summarizePatterns
  | getPattern
  | synthesize
  | getModel
  | health
  deriving DecidableEq, Repr

/- A method and a template, and what they ask for. -/
structure Route where
  method : String
  template : List Part
  endpoint : Endpoint
  deriving DecidableEq, Repr

/- A template whose segments are all fixed. -/
def fixed
    (texts : List String) : List Part :=
  texts.map .fixed

/- A template of fixed segments followed by a parameter. -/
def followed
    (texts : List String) : List Part :=
  fixed texts ++ [.parameter]

/- The routes, in the order in which they are tried. -/
def routes : List Route :=
  [ ⟨"POST", fixed ["session", "start"], .startSession⟩
  , ⟨"POST", fixed ["session", "event"], .logEvent⟩
  , ⟨"GET", followed ["session"], .getSession⟩
  , ⟨"POST", followed ["patterns", "analyze"], .analyze⟩
  , ⟨"POST", fixed ["patterns", "analyze-unprocessed"],
      .analyzeUnprocessed⟩
  , ⟨"GET", fixed ["patterns", "definitions"],
      .listDefinitions⟩
  , ⟨"POST", fixed ["patterns", "definitions"],
      .createDefinition⟩
  , ⟨"PUT", followed ["patterns", "definitions"],
      .updateDefinition⟩
  , ⟨"DELETE", followed ["patterns", "definitions"],
      .deleteDefinition⟩
  , ⟨"POST", fixed ["patterns", "definitions", "reload"],
      .reloadDefinitions⟩
  , ⟨"GET", fixed ["patterns"], .listPatterns⟩
  , ⟨"GET", fixed ["patterns", "stats", "summary"],
      .summarizePatterns⟩
  , ⟨"GET", followed ["patterns"], .getPattern⟩
  , ⟨"POST", followed ["models", "synthesize"], .synthesize⟩
  , ⟨"GET", followed ["models"], .getModel⟩
  , ⟨"GET", fixed [""], .health⟩ ]

end Service

end TraceMining

------------------------------------------------------------
-- Resolution
------------------------------------------------------------

namespace TraceMining

namespace Service

/- Where a request goes. -/
inductive Resolution where
  | found (endpoint : Endpoint) (captures : List String)
  | wrongMethod
  | redirected
  | unknown
  deriving DecidableEq, Repr

/- Some route has the path. -/
def isKnown
    (path : String) : Bool :=
  routes.any fun r => (captures? r.template path).isSome

/- A path without its last slashes, or with one more. -/
def toggled
    (path : String) : String :=
  let cs := path.toList
  if cs.getLast? = some '/' then
    String.ofList
      (cs.reverse.dropWhile (· == '/')).reverse
  else String.ofList (cs ++ ['/'])

/- Find the route of a request. -/
def resolve
    (method : String)
    (path : String) : Resolution :=
  let hit := routes.findSome? fun r =>
    if r.method == method then
      (captures? r.template path).map (Resolution.found r.endpoint)
    else none
  match hit with
  | some r => r
  | none =>
      if isKnown path then .wrongMethod
      else if path != "/" && isKnown (toggled path) then
        .redirected
      else .unknown

end Service

end TraceMining
