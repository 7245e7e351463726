/-! The named colours. A colour matches a name only if it is that very colour. -/
namespace Clipping

/-- A named colour, with its value as `#rrggbb` in lower case. -/
structure Swatch where
  hex : String
  name : String
  deriving DecidableEq, Repr

namespace Swatch

/-- The hue, before the first hyphen of the name. -/
def family (s : Swatch) : String := String.ofList (s.name.toList.takeWhile (· != '-'))

/-- What follows the hyphen; black and white have no shades. -/
def shade? (s : Swatch) : Option String :=
  match s.name.toList.dropWhile (· != '-') with
  | [] => none
  | _ :: shade => some (String.ofList shade)

end Swatch

def palette : List Swatch := [
  ⟨"#000000", "black"⟩, ⟨"#ffffff", "white"⟩, ⟨"#f9fafb", "gray-50"⟩, ⟨"#f3f4f6", "gray-100"⟩,
  ⟨"#e5e7eb", "gray-200"⟩, ⟨"#d1d5db", "gray-300"⟩, ⟨"#9ca3af", "gray-400"⟩,
  ⟨"#6b7280", "gray-500"⟩, ⟨"#4b5563", "gray-600"⟩, ⟨"#374151", "gray-700"⟩,
  ⟨"#1f2937", "gray-800"⟩, ⟨"#111827", "gray-900"⟩, ⟨"#fef2f2", "red-50"⟩,
  ⟨"#fca5a5", "red-300"⟩, ⟨"#ef4444", "red-500"⟩, ⟨"#dc2626", "red-600"⟩,
  ⟨"#991b1b", "red-800"⟩, ⟨"#fff7ed", "orange-50"⟩, ⟨"#fdba74", "orange-300"⟩,
  ⟨"#f97316", "orange-500"⟩, ⟨"#ea580c", "orange-600"⟩, ⟨"#fefce8", "yellow-50"⟩,
  ⟨"#fde047", "yellow-300"⟩, ⟨"#eab308", "yellow-500"⟩, ⟨"#ca8a04", "yellow-600"⟩,
  ⟨"#f0fdf4", "green-50"⟩, ⟨"#86efac", "green-300"⟩, ⟨"#22c55e", "green-500"⟩,
  ⟨"#16a34a", "green-600"⟩, ⟨"#14532d", "green-900"⟩, ⟨"#ecfdf5", "emerald-50"⟩,
  ⟨"#6ee7b7", "emerald-300"⟩, ⟨"#10b981", "emerald-500"⟩, ⟨"#059669", "emerald-600"⟩,
  ⟨"#f0fdfa", "teal-50"⟩, ⟨"#5eead4", "teal-300"⟩, ⟨"#14b8a6", "teal-500"⟩,
  ⟨"#0d9488", "teal-600"⟩, ⟨"#025a4e", "teal-900"⟩, ⟨"#eff6ff", "blue-50"⟩,
  ⟨"#93c5fd", "blue-300"⟩, ⟨"#3b82f6", "blue-500"⟩, ⟨"#2563eb", "blue-600"⟩,
  ⟨"#1e3a8a", "blue-900"⟩, ⟨"#eef2ff", "indigo-50"⟩, ⟨"#a5b4fc", "indigo-300"⟩,
  ⟨"#6366f1", "indigo-500"⟩, ⟨"#4f46e5", "indigo-600"⟩, ⟨"#faf5ff", "purple-50"⟩,
  ⟨"#d8b4fe", "purple-300"⟩, ⟨"#a855f7", "purple-500"⟩, ⟨"#9333ea", "purple-600"⟩,
  ⟨"#fdf4ff", "fuchsia-50"⟩, ⟨"#f0abfc", "fuchsia-300"⟩, ⟨"#d946ef", "fuchsia-500"⟩,
  ⟨"#fdf2f8", "pink-50"⟩, ⟨"#f9a8d4", "pink-300"⟩, ⟨"#ec4899", "pink-500"⟩,
  ⟨"#db2777", "pink-600"⟩]

def Swatch.named? (hex : String) : Option Swatch := palette.find? (·.hex == hex)

end Clipping
