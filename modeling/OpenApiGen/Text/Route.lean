import OpenApiGen.Text.Split
import OpenApiGen.Text.Words

/-!
Names of operations derived from their route: `GET /users` is `listUsers`, `GET /users/{userId}` is
`getUser`, `POST /users/{userId}/messages` is `createUsersMessages`.
-/

namespace OpenApiGen.Text

/-- The singular of an English plural, by its ending. -/
def singular (word : String) : String :=
  match (stripEnd? "ies" word).filter (· ≠ "") with
  | some stem => stem ++ "y"
  | none =>
    if endsWith "ses" word || endsWith "xes" word || endsWith "zes" word then
      .ofList (word.toList.take (word.length - 2))
    else if word.length > 1 && endsWith "s" word && !endsWith "ss" word then
      .ofList (word.toList.take (word.length - 1))
    else word

/-- The segments of a path that are not empty. -/
def pathSegments (path : String) : List String :=
  ((splitWhere (· = '/') path.toList).filter fun piece => !piece.isEmpty).map .ofList

/-- Whether a segment of a path stands for a parameter. -/
def isPathParameter (segment : String) : Bool :=
  startsWith "\x7b" segment && endsWith "\x7d" segment

/-- What an HTTP method does to the resource that a path names. -/
def routeVerb (method : String) (endsWithParameter : Bool) : String :=
  match toLowercase method with
  | "get" => if endsWithParameter then "get" else "list"
  | "post" => "create"
  | "put" => "update"
  | other => other

/-- The name of an operation, from its HTTP method and path. When the path ends with a parameter,
the last resource is in the singular. -/
def routeName (method path : String) : String :=
  let segments := pathSegments path
  let resources := segments.filter fun s => !isPathParameter s
  let endsWithParameter := (segments.getLast?.map isPathParameter).getD false
  let spelled := match endsWithParameter, resources.getLast? with
    | true, some last => resources.dropLast ++ [singular last]
    | _, _ => resources
  routeVerb method endsWithParameter ++ String.join (spelled.map toUpperCamel)

end OpenApiGen.Text
