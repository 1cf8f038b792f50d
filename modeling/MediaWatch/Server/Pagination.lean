import MediaWatch.Json.Value

/-!
# Pagination

How much of a listing is asked for: all of it (`Pagination.unpaginated`) or one page (`Pagination.offset`).
-/

namespace MediaWatch.Server.Pagination

open Json

/-- The whole listing. -/
def unpaginated : Value := .obj [("none", .obj [("unpaginated", .bool true)])]

/-- One page. -/
def offset (page pageSize : Int) : Value :=
  .obj [("offset", .obj [("page", Value.int page), ("pageSize", Value.int pageSize)])]

end MediaWatch.Server.Pagination
