/-!
# Image media types

Types of pictures.
-/

namespace PreviewServer.Media.Builtin

/-- Image media types with their extensions. -/
def image : List (String × List String) :=
  [("image/apng", ["apng"]),
   ("image/avif", ["avif"]),
   ("image/avif-sequence", ["avifs"]),
   ("image/bmp", ["bmp", "dib"]),
   ("image/cgm", ["cgm"]),
   ("image/cis-cod", ["cod"]),
   ("image/g3fax", ["g3"]),
   ("image/gif", ["gif"]),
   ("image/heic", ["heic"]),
   ("image/heic-sequence", ["heics"]),
   ("image/heif", ["heif"]),
   ("image/heif-sequence", ["heifs"]),
   ("image/ief", ["ief"]),
   ("image/jp2", ["jp2", "jpg2"]),
   ("image/jpeg", ["jfif", "jpe", "jpeg", "jpg"]),
   ("image/jpm", ["jpm"]),
   ("image/jpx", ["jpf", "jpx"]),
   ("image/jxl", ["jxl"]),
   ("image/ktx", ["ktx"]),
   ("image/pict", ["pct", "pic", "pict"]),
   ("image/png", ["png", "pnz"]),
   ("image/prs.btif", ["btif"]),
   ("image/sgi", ["sgi"]),
   ("image/svg+xml", ["svg", "svgz"]),
   ("image/tiff", ["tif", "tiff"]),
   ("image/vnd.dece.graphic", ["uvg", "uvi", "uvvg", "uvvi"]),
   ("image/vnd.djvu", ["djv", "djvu"]),
   ("image/vnd.fastbidsheet", ["fbs"]),
   ("image/vnd.fpx", ["fpx"]),
   ("image/vnd.fst", ["fst"]),
   ("image/vnd.fujixerox.edmics-mmr", ["mmr"]),
   ("image/vnd.fujixerox.edmics-rlc", ["rlc"]),
   ("image/vnd.ms-modi", ["mdi"]),
   ("image/vnd.ms-photo", ["wdp"]),
   ("image/vnd.net-fpx", ["npx"]),
   ("image/vnd.radiance", ["hdr"]),
   ("image/vnd.rn-realflash", ["rf"]),
   ("image/vnd.wap.wbmp", ["wbmp"]),
   ("image/vnd.xiff", ["xif"]),
   ("image/webp", ["webp"]),
   ("image/x-3ds", ["3ds"]),
   ("image/x-adobe-dng", ["dng"]),
   ("image/x-canon-cr2", ["cr2"]),
   ("image/x-canon-cr3", ["cr3"]),
   ("image/x-canon-crw", ["crw"]),
   ("image/x-cmu-raster", ["ras"]),
   ("image/x-cmx", ["cmx"]),
   ("image/x-freehand", ["fh", "fh4", "fh5", "fh7", "fhc"]),
   ("image/x-fuji-raf", ["raf"]),
   ("image/x-icon", ["ico"]),
   ("image/x-jg", ["art"]),
   ("image/x-jng", ["jng"]),
   ("image/x-kodak-k25", ["k25"]),
   ("image/x-kodak-kdc", ["kdc"]),
   ("image/x-macpaint", ["mac", "pnt", "pntg"]),
   ("image/x-minolta-mrw", ["mrw"]),
   ("image/x-mrsid-image", ["sid"]),
   ("image/x-nikon-nef", ["nef"]),
   ("image/x-nikon-nrw", ["nrw"]),
   ("image/x-olympus-orf", ["orf"]),
   ("image/x-panasonic-rw", ["raw"]),
   ("image/x-panasonic-rw2", ["rw2", "rwl"]),
   ("image/x-pentax-pef", ["pef"]),
   ("image/x-portable-anymap", ["pnm"]),
   ("image/x-portable-bitmap", ["pbm"]),
   ("image/x-portable-graymap", ["pgm"]),
   ("image/x-portable-pixmap", ["ppm"]),
   ("image/x-quicktime", ["qti", "qtif"]),
   ("image/x-rgb", ["rgb"]),
   ("image/x-sigma-x3f", ["x3f"]),
   ("image/x-sony-arw", ["arw"]),
   ("image/x-sony-sr2", ["sr2"]),
   ("image/x-tga", ["tga"]),
   ("image/x-xbitmap", ["xbm"]),
   ("image/x-xpixmap", ["xpm"]),
   ("image/x-xwindowdump", ["xwd"])]

end PreviewServer.Media.Builtin
