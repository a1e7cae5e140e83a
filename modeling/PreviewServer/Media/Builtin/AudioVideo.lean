/-!
# Audio and video media types

Types of sound and moving pictures.
-/

namespace PreviewServer.Media.Builtin

/-- Audio and video media types with their extensions. -/
def audioVideo : List (String × List String) :=
  [("audio/aac", ["aac", "adts"]),
   ("audio/ac3", ["ac3"]),
   ("audio/aiff", ["aif", "aifc", "aiff", "cdda"]),
   ("audio/annodex", ["axa"]),
   ("audio/audible", ["aa"]),
   ("audio/basic", ["au", "snd"]),
   ("audio/flac", ["flac"]),
   ("audio/m4a", ["m4a"]),
   ("audio/m4b", ["m4b"]),
   ("audio/m4p", ["m4p"]),
   ("audio/mid", ["mid", "midi", "rmi"]),
   ("audio/midi", ["kar"]),
   ("audio/mp4", ["mp4a"]),
   ("audio/mpeg", ["m2a", "m3a", "mp2", "mp2a", "mp3", "mpga"]),
   ("audio/ogg", ["oga", "ogg", "opus", "spx"]),
   ("audio/s3m", ["s3m"]),
   ("audio/scpls", ["pls"]),
   ("audio/silk", ["sil"]),
   ("audio/vnd.audible.aax", ["aax"]),
   ("audio/vnd.dece.audio", ["uva", "uvva"]),
   ("audio/vnd.digital-winds", ["eol"]),
   ("audio/vnd.dlna.adts", ["adt"]),
   ("audio/vnd.dra", ["dra"]),
   ("audio/vnd.dts", ["dts"]),
   ("audio/vnd.dts.hd", ["dtshd"]),
   ("audio/vnd.lucent.voice", ["lvp"]),
   ("audio/vnd.ms-playready.media.pya", ["pya"]),
   ("audio/vnd.nuera.ecelp4800", ["ecelp4800"]),
   ("audio/vnd.nuera.ecelp7470", ["ecelp7470"]),
   ("audio/vnd.nuera.ecelp9600", ["ecelp9600"]),
   ("audio/vnd.rip", ["rip"]),
   ("audio/wav", ["wav", "wave"]),
   ("audio/webm", ["weba"]),
   ("audio/x-caf", ["caf"]),
   ("audio/x-gsm", ["gsm"]),
   ("audio/x-m4r", ["m4r"]),
   ("audio/x-matroska", ["mka"]),
   ("audio/x-mpegurl", ["m3u", "m3u8"]),
   ("audio/x-ms-wax", ["wax"]),
   ("audio/x-ms-wma", ["wma"]),
   ("audio/x-pn-realaudio", ["ra", "ram"]),
   ("audio/x-pn-realaudio-plugin", ["rpm"]),
   ("audio/x-sd2", ["sd2"]),
   ("audio/x-smd", ["smd", "smx", "smz"]),
   ("audio/xm", ["xm"]),
   ("video/3gpp", ["3gp", "3gpp"]),
   ("video/3gpp2", ["3g2", "3gp2"]),
   ("video/annodex", ["axv"]),
   ("video/divx", ["divx"]),
   ("video/h261", ["h261"]),
   ("video/h263", ["h263"]),
   ("video/h264", ["h264"]),
   ("video/jpeg", ["jpgv"]),
   ("video/jpm", ["jpgm"]),
   ("video/mj2", ["mj2", "mjp2"]),
   ("video/mp4", ["mp4", "mp4v", "mpg4"]),
   ("video/mpeg", ["m1v", "m2v", "mod", "mp2v", "mpa", "mpe", "mpeg", "mpg", "mpv2", "vbk"]),
   ("video/ogg", ["ogv"]),
   ("video/quicktime", ["mov", "mqv", "qt"]),
   ("video/vnd.dece.hd", ["uvh", "uvvh"]),
   ("video/vnd.dece.mobile", ["uvm", "uvvm"]),
   ("video/vnd.dece.pd", ["uvp", "uvvp"]),
   ("video/vnd.dece.sd", ["uvs", "uvvs"]),
   ("video/vnd.dece.video", ["uvv", "uvvv"]),
   ("video/vnd.dlna.mpeg-tts", ["m2t", "m2ts", "mts", "ts", "tts"]),
   ("video/vnd.dvb.file", ["dvb"]),
   ("video/vnd.fvt", ["fvt"]),
   ("video/vnd.mpegurl", ["m4u", "mxu"]),
   ("video/vnd.ms-playready.media.pyv", ["pyv"]),
   ("video/vnd.uvvu.mp4", ["uvu", "uvvu"]),
   ("video/vnd.vivo", ["viv"]),
   ("video/webm", ["webm"]),
   ("video/x-dv", ["dif", "dv"]),
   ("video/x-f4v", ["f4v"]),
   ("video/x-fli", ["fli"]),
   ("video/x-flv", ["flv"]),
   ("video/x-ivf", ["ivf"]),
   ("video/x-la-asf", ["lsf", "lsx"]),
   ("video/x-m4v", ["m4v"]),
   ("video/x-matroska", ["mk3d", "mks", "mkv"]),
   ("video/x-mng", ["mng"]),
   ("video/x-ms-asf", ["asf", "asr", "asx", "nsc"]),
   ("video/x-ms-vob", ["vob"]),
   ("video/x-ms-wm", ["wm"]),
   ("video/x-ms-wmp", ["wmp"]),
   ("video/x-ms-wmv", ["wmv"]),
   ("video/x-ms-wmx", ["wmx"]),
   ("video/x-ms-wvx", ["wvx"]),
   ("video/x-msvideo", ["avi"]),
   ("video/x-sgi-movie", ["movie"]),
   ("video/x-smv", ["smv"])]

end PreviewServer.Media.Builtin
