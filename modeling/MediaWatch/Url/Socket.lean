import MediaWatch.Url.Split
import MediaWatch.Text.Blank

/-!
# The address of the subscription

`Url.socket` turns the base URL of a server into the address of its websocket: `https` becomes `wss` and anything else
`ws`, host and path stay, and the path of the queries is put behind it.
-/

namespace MediaWatch.Url

/-- The path of the server's queries, relative to its base URL. -/
def graphqlPath : String := "api/graphql"

/-- A text without the slashes at its end. -/
def trimSlashes (s : String) : String := Text.trimEnd (· == '/') s

/-- The address of the websocket, unless the base URL has a bad host. -/
def socket (base : String) : Option String :=
  (split (trimSlashes base)).map fun parts =>
    let path := trimSlashes parts.path ++ "/" ++ graphqlPath
    (if parts.scheme = "https" then "wss" else "ws") ++ "://" ++ parts.authority ++
      (if path.toList.head? == some '/' then path else "/" ++ path)

end MediaWatch.Url
