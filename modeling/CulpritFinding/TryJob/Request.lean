import CulpritFinding.Json.Format

namespace CulpritFinding

structure CacheSpec where
  name : String
  path : String
  deriving DecidableEq

namespace CacheSpec

def format : Format CacheSpec := .record <|
  Shape.pure CacheSpec.mk
    |>.required "name" .text (·.name)
    |>.required "path" .text (·.path)

end CacheSpec

structure Dimension where
  key : String
  value : String
  deriving DecidableEq

namespace Dimension

def format : Format Dimension := .record <|
  Shape.pure Dimension.mk
    |>.required "key" .text (·.key)
    |>.required "value" .text (·.value)

end Dimension

structure TryJobRequest where
  builder : String
  properties : SortedMap String Json
  cache : CacheSpec
  dimensions : List Dimension

namespace TryJobRequest

def format : Format TryJobRequest := .record <|
  Shape.pure TryJobRequest.mk
    |>.required "builder" .text (·.builder)
    |>.required "properties" (.map .any) (·.properties)
    |>.required "cache" CacheSpec.format (·.cache)
    |>.required "dimensions" (.list Dimension.format) (·.dimensions)

end TryJobRequest

end CulpritFinding
