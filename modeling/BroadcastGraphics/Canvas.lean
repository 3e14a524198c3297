/-!
# The canvas

All graphics share one canvas: its size in pixels, the font of its texts and the movement of the
container that holds the elements.
-/

namespace BroadcastGraphics
namespace Canvas

/-- The width of the canvas. -/
def width : String := "1920"

/-- The height of the canvas. -/
def height : String := "1080"

/-- The font of texts that name none. -/
def fontFamily : String := "Arial, sans-serif"

end Canvas
end BroadcastGraphics
