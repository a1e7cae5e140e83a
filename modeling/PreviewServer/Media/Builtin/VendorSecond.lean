/-!
# Vendor media types, second part

Application types of vendors whose name begins with the letter k or a later one.
-/

namespace PreviewServer.Media.Builtin

/-- Vendor media types, second part with their extensions. -/
def vendorSecond : List (String × List String) :=
  [("application/vnd.kahootz", ["ktr", "ktz"]),
   ("application/vnd.kde.karbon", ["karbon"]),
   ("application/vnd.kde.kchart", ["chrt"]),
   ("application/vnd.kde.kformula", ["kfo"]),
   ("application/vnd.kde.kivio", ["flw"]),
   ("application/vnd.kde.kontour", ["kon"]),
   ("application/vnd.kde.kpresenter", ["kpr", "kpt"]),
   ("application/vnd.kde.kspread", ["ksp"]),
   ("application/vnd.kde.kword", ["kwd", "kwt"]),
   ("application/vnd.kenameaapp", ["htke"]),
   ("application/vnd.kidspiration", ["kia"]),
   ("application/vnd.kinar", ["kne", "knp"]),
   ("application/vnd.koan", ["skd", "skm", "skt"]),
   ("application/vnd.kodak-descriptor", ["sse"]),
   ("application/vnd.las.las+xml", ["lasxml"]),
   ("application/vnd.lotus-1-2-3", ["123"]),
   ("application/vnd.lotus-approach", ["apr"]),
   ("application/vnd.lotus-freelance", ["pre"]),
   ("application/vnd.lotus-notes", ["nsf"]),
   ("application/vnd.lotus-organizer", ["org"]),
   ("application/vnd.lotus-screencam", ["scm"]),
   ("application/vnd.lotus-wordpro", ["lwp"]),
   ("application/vnd.macports.portpkg", ["portpkg"]),
   ("application/vnd.mcd", ["mcd"]),
   ("application/vnd.medcalcdata", ["mc1"]),
   ("application/vnd.mediastation.cdkey", ["cdkey"]),
   ("application/vnd.mfer", ["mwf"]),
   ("application/vnd.mfmp", ["mfm"]),
   ("application/vnd.micrografx.flo", ["flo"]),
   ("application/vnd.micrografx.igx", ["igx"]),
   ("application/vnd.mif", ["mif"]),
   ("application/vnd.mobius.daf", ["daf"]),
   ("application/vnd.mobius.dis", ["dis"]),
   ("application/vnd.mobius.mbk", ["mbk"]),
   ("application/vnd.mobius.mqy", ["mqy"]),
   ("application/vnd.mobius.msl", ["msl"]),
   ("application/vnd.mobius.plc", ["plc"]),
   ("application/vnd.mobius.txf", ["txf"]),
   ("application/vnd.mophun.application", ["mpn"]),
   ("application/vnd.mophun.certificate", ["mpc"]),
   ("application/vnd.mozilla.xul+xml", ["xul"]),
   ("application/vnd.ms-artgalry", ["cil"]),
   ("application/vnd.ms-excel", ["slk", "xla", "xlc", "xld", "xlk", "xll", "xlm", "xls", "xlt",
      "xlw"]),
   ("application/vnd.ms-excel.addin.macroEnabled.12", ["xlam"]),
   ("application/vnd.ms-excel.sheet.macroEnabled.12", ["xlsm"]),
   ("application/vnd.ms-fontobject", ["eot"]),
   ("application/vnd.ms-htmlhelp", ["chm"]),
   ("application/vnd.ms-ims", ["ims"]),
   ("application/vnd.ms-lrm", ["lrm"]),
   ("application/vnd.ms-mediapackage", ["mpf"]),
   ("application/vnd.ms-office.calx", ["calx"]),
   ("application/vnd.ms-officetheme", ["thmx"]),
   ("application/vnd.ms-outlook", ["msg", "pst"]),
   ("application/vnd.ms-pki.certstore", ["sst"]),
   ("application/vnd.ms-pki.pko", ["pko"]),
   ("application/vnd.ms-pki.seccat", ["cat"]),
   ("application/vnd.ms-pki.stl", ["stl"]),
   ("application/vnd.ms-powerpoint", ["pot", "ppa", "pps", "ppt", "pwz"]),
   ("application/vnd.ms-project", ["mpp", "mpt"]),
   ("application/vnd.ms-visio.viewer", ["vdx"]),
   ("application/vnd.ms-works", ["wcm", "wdb", "wks", "wps"]),
   ("application/vnd.ms-wpl", ["wpl"]),
   ("application/vnd.ms-xpsdocument", ["xps"]),
   ("application/vnd.mseq", ["mseq"]),
   ("application/vnd.musician", ["mus"]),
   ("application/vnd.muvee.style", ["msty"]),
   ("application/vnd.mynfc", ["taglet"]),
   ("application/vnd.neurolanguage.nlu", ["nlu"]),
   ("application/vnd.nitf", ["nitf", "ntf"]),
   ("application/vnd.noblenet-directory", ["nnd"]),
   ("application/vnd.noblenet-sealer", ["nns"]),
   ("application/vnd.noblenet-web", ["nnw"]),
   ("application/vnd.nokia.n-gage.data", ["ngdat"]),
   ("application/vnd.nokia.n-gage.symbian.install", ["n-gage"]),
   ("application/vnd.nokia.radio-preset", ["rpst"]),
   ("application/vnd.nokia.radio-presets", ["rpss"]),
   ("application/vnd.novadigm.edm", ["edm"]),
   ("application/vnd.novadigm.edx", ["edx"]),
   ("application/vnd.novadigm.ext", ["ext"]),
   ("application/vnd.oasis.opendocument.chart", ["odc"]),
   ("application/vnd.oasis.opendocument.database", ["odb"]),
   ("application/vnd.oasis.opendocument.formula", ["odf"]),
   ("application/vnd.oasis.opendocument.graphics", ["odg"]),
   ("application/vnd.oasis.opendocument.image", ["odi"]),
   ("application/vnd.oasis.opendocument.presentation", ["odp"]),
   ("application/vnd.oasis.opendocument.spreadsheet", ["ods"]),
   ("application/vnd.oasis.opendocument.text", ["odt"]),
   ("application/vnd.oasis.opendocument.text-master", ["odm"]),
   ("application/vnd.oasis.opendocument.text-template", ["ott"]),
   ("application/vnd.oasis.opendocument.text-web", ["oth"]),
   ("application/vnd.olpc-sugar", ["xo"]),
   ("application/vnd.oma.dd2+xml", ["dd2"]),
   ("application/vnd.openofficeorg.extension", ["oxt"]),
   ("application/vnd.osgeo.mapguide.package", ["mgp"]),
   ("application/vnd.osgi.dp", ["dp"]),
   ("application/vnd.osgi.subsystem", ["esa"]),
   ("application/vnd.palm", ["oprc", "pdb", "pqa"]),
   ("application/vnd.pawaafile", ["paw"]),
   ("application/vnd.pg.format", ["str"]),
   ("application/vnd.pg.osasli", ["ei6"]),
   ("application/vnd.picsel", ["efif"]),
   ("application/vnd.pmi.widget", ["wg"]),
   ("application/vnd.pocketlearn", ["plf"]),
   ("application/vnd.powerbuilder6", ["pbd"]),
   ("application/vnd.previewsystems.box", ["box"]),
   ("application/vnd.proteus.magazine", ["mgz"]),
   ("application/vnd.publishare-delta-tree", ["qps"]),
   ("application/vnd.pvi.ptid1", ["ptid"]),
   ("application/vnd.quark.quarkxpress", ["qwd", "qwt", "qxb", "qxl", "qxt"]),
   ("application/vnd.realvnc.bed", ["bed"]),
   ("application/vnd.recordare.musicxml", ["mxl"]),
   ("application/vnd.recordare.musicxml+xml", ["musicxml"]),
   ("application/vnd.rig.cryptonote", ["cryptonote"]),
   ("application/vnd.rn-realmedia", ["rm"]),
   ("application/vnd.rn-realmedia-vbr", ["rmvb"]),
   ("application/vnd.rn-rn_music_package", ["rmp"]),
   ("application/vnd.route66.link66+xml", ["link66"]),
   ("application/vnd.sailingtracker.track", ["st"]),
   ("application/vnd.seemail", ["see"]),
   ("application/vnd.sema", ["sema"]),
   ("application/vnd.semd", ["semd"]),
   ("application/vnd.semf", ["semf"]),
   ("application/vnd.shana.informed.formdata", ["ifm"]),
   ("application/vnd.shana.informed.formtemplate", ["itp"]),
   ("application/vnd.shana.informed.interchange", ["iif"]),
   ("application/vnd.shana.informed.package", ["ipk"]),
   ("application/vnd.simtech-mindmapper", ["twd", "twds"]),
   ("application/vnd.smart.teacher", ["teacher"]),
   ("application/vnd.solent.sdkm+xml", ["sdkd", "sdkm"]),
   ("application/vnd.spotfire.dxp", ["dxp"]),
   ("application/vnd.spotfire.sfs", ["sfs"]),
   ("application/vnd.stardivision.calc", ["sdc"]),
   ("application/vnd.stardivision.draw", ["sda"]),
   ("application/vnd.stardivision.impress", ["sdd"]),
   ("application/vnd.stardivision.math", ["smf"]),
   ("application/vnd.stardivision.writer", ["sdw", "vor"]),
   ("application/vnd.stardivision.writer-global", ["sgl"]),
   ("application/vnd.stepmania.package", ["smzip"]),
   ("application/vnd.stepmania.stepchart", ["sm"]),
   ("application/vnd.sun.wadl+xml", ["wadl"]),
   ("application/vnd.sun.xml.calc", ["sxc"]),
   ("application/vnd.sun.xml.calc.template", ["stc"]),
   ("application/vnd.sun.xml.draw", ["sxd"]),
   ("application/vnd.sun.xml.draw.template", ["std"]),
   ("application/vnd.sun.xml.impress", ["sxi"]),
   ("application/vnd.sun.xml.impress.template", ["sti"]),
   ("application/vnd.sun.xml.math", ["sxm"]),
   ("application/vnd.sun.xml.writer", ["sxw"]),
   ("application/vnd.sun.xml.writer.global", ["sxg"]),
   ("application/vnd.sun.xml.writer.template", ["stw"]),
   ("application/vnd.sus-calendar", ["sus", "susp"]),
   ("application/vnd.svd", ["svd"]),
   ("application/vnd.symbian.install", ["sis", "sisx"]),
   ("application/vnd.syncml+xml", ["xsm"]),
   ("application/vnd.syncml.dm+wbxml", ["bdm"]),
   ("application/vnd.syncml.dm+xml", ["xdm"]),
   ("application/vnd.tao.intent-module-archive", ["tao"]),
   ("application/vnd.tcpdump.pcap", ["cap", "dmp", "pcap"]),
   ("application/vnd.tmobile-livetv", ["tmo"]),
   ("application/vnd.trid.tpt", ["tpt"]),
   ("application/vnd.triscape.mxs", ["mxs"]),
   ("application/vnd.trueapp", ["tra"]),
   ("application/vnd.ufdl", ["ufd", "ufdl"]),
   ("application/vnd.uiq.theme", ["utz"]),
   ("application/vnd.umajin", ["umj"]),
   ("application/vnd.unity", ["unityweb"]),
   ("application/vnd.uoml+xml", ["uoml"]),
   ("application/vnd.vcx", ["vcx"]),
   ("application/vnd.visio", ["vsd", "vss", "vst", "vsw", "vsx", "vtx"]),
   ("application/vnd.visionary", ["vis"]),
   ("application/vnd.vsf", ["vsf"]),
   ("application/vnd.wap.wbxml", ["wbxml"]),
   ("application/vnd.wap.wmlc", ["wmlc"]),
   ("application/vnd.wap.wmlscriptc", ["wmlsc"]),
   ("application/vnd.webturbo", ["wtb"]),
   ("application/vnd.wolfram.player", ["nbp"]),
   ("application/vnd.wordperfect", ["wpd"]),
   ("application/vnd.wqd", ["wqd"]),
   ("application/vnd.wt.stf", ["stf"]),
   ("application/vnd.xara", ["xar"]),
   ("application/vnd.xfdl", ["xfdl"]),
   ("application/vnd.yamaha.hv-dic", ["hvd"]),
   ("application/vnd.yamaha.hv-script", ["hvs"]),
   ("application/vnd.yamaha.hv-voice", ["hvp"]),
   ("application/vnd.yamaha.openscoreformat", ["osf"]),
   ("application/vnd.yamaha.smaf-audio", ["saf"]),
   ("application/vnd.yamaha.smaf-phrase", ["spf"]),
   ("application/vnd.yellowriver-custom-menu", ["cmp"]),
   ("application/vnd.zul", ["zir", "zirz"]),
   ("application/vnd.zzazz.deck+xml", ["zaz"])]

end PreviewServer.Media.Builtin
