/-!
# Vendor media types, first part

Application types of vendors whose name comes before the letter k.
-/

namespace PreviewServer.Media.Builtin

/-- Vendor media types, first part with their extensions. -/
def vendorFirst : List (String × List String) :=
  [("application/vnd.3gpp.pic-bw-large", ["plb"]),
   ("application/vnd.3gpp.pic-bw-small", ["psb"]),
   ("application/vnd.3gpp.pic-bw-var", ["pvb"]),
   ("application/vnd.3gpp2.tcap", ["tcap"]),
   ("application/vnd.3m.post-it-notes", ["pwn"]),
   ("application/vnd.accpac.simply.aso", ["aso"]),
   ("application/vnd.accpac.simply.imp", ["imp"]),
   ("application/vnd.acucobol", ["acu"]),
   ("application/vnd.acucorp", ["acutc", "atc"]),
   ("application/vnd.adobe.formscentral.fcdt", ["fcdt"]),
   ("application/vnd.adobe.fxp", ["fxp", "fxpl"]),
   ("application/vnd.adobe.xdp+xml", ["xdp"]),
   ("application/vnd.adobe.xfdf", ["xfdf"]),
   ("application/vnd.ahead.space", ["ahead"]),
   ("application/vnd.airzip.filesecure.azf", ["azf"]),
   ("application/vnd.airzip.filesecure.azs", ["azs"]),
   ("application/vnd.amazon.ebook", ["azw"]),
   ("application/vnd.americandynamics.acc", ["acc"]),
   ("application/vnd.amiga.ami", ["ami"]),
   ("application/vnd.android.package-archive", ["apk"]),
   ("application/vnd.antix.game-component", ["atx"]),
   ("application/vnd.apache.parquet", ["parquet"]),
   ("application/vnd.apple.installer+xml", ["mpkg"]),
   ("application/vnd.apple.pkpass", ["pkpass"]),
   ("application/vnd.aristanetworks.swi", ["swi"]),
   ("application/vnd.astraea-software.iota", ["iota"]),
   ("application/vnd.audiograph", ["aep"]),
   ("application/vnd.blueice.multipass", ["mpm"]),
   ("application/vnd.bmi", ["bmi"]),
   ("application/vnd.businessobjects", ["rep"]),
   ("application/vnd.chemdraw+xml", ["cdxml"]),
   ("application/vnd.chipnuts.karaoke-mmd", ["mmd"]),
   ("application/vnd.cinderella", ["cdy"]),
   ("application/vnd.citationstyles.style+xml", ["csl"]),
   ("application/vnd.claymore", ["cla"]),
   ("application/vnd.cloanto.rp9", ["rp9"]),
   ("application/vnd.clonk.c4group", ["c4d", "c4f", "c4g", "c4p", "c4u"]),
   ("application/vnd.cluetrust.cartomobile-config", ["c11amc"]),
   ("application/vnd.commonspace", ["csp"]),
   ("application/vnd.contact.cmsg", ["cdbcmsg"]),
   ("application/vnd.cosmocaller", ["cmc"]),
   ("application/vnd.crick.clicker", ["clkx"]),
   ("application/vnd.crick.clicker.keyboard", ["clkk"]),
   ("application/vnd.crick.clicker.palette", ["clkp"]),
   ("application/vnd.crick.clicker.template", ["clkt"]),
   ("application/vnd.crick.clicker.wordbank", ["clkw"]),
   ("application/vnd.criticaltools.wbs+xml", ["wbs"]),
   ("application/vnd.cups-ppd", ["ppd"]),
   ("application/vnd.curl.car", ["car"]),
   ("application/vnd.curl.pcurl", ["pcurl"]),
   ("application/vnd.dart", ["dart"]),
   ("application/vnd.data-vision.rdz", ["rdz"]),
   ("application/vnd.dece.data", ["uvd", "uvf", "uvvd", "uvvf"]),
   ("application/vnd.dece.ttml+xml", ["uvt", "uvvt"]),
   ("application/vnd.dece.unspecified", ["uvvx", "uvx"]),
   ("application/vnd.dece.zip", ["uvvz", "uvz"]),
   ("application/vnd.denovo.fcselayout-link", ["fe_launch"]),
   ("application/vnd.dna", ["dna"]),
   ("application/vnd.dolby.mlp", ["mlp"]),
   ("application/vnd.dpgraph", ["dpg"]),
   ("application/vnd.dreamfactory", ["dfac"]),
   ("application/vnd.ds-keypoint", ["kpxx"]),
   ("application/vnd.dvb.ait", ["ait"]),
   ("application/vnd.dynageo", ["geo"]),
   ("application/vnd.ecowin.chart", ["mag"]),
   ("application/vnd.enliven", ["nml"]),
   ("application/vnd.epson.esf", ["esf"]),
   ("application/vnd.epson.msf", ["msf"]),
   ("application/vnd.epson.quickanime", ["qam"]),
   ("application/vnd.epson.salt", ["slt"]),
   ("application/vnd.epson.ssf", ["ssf"]),
   ("application/vnd.eszigno3+xml", ["es3", "et3"]),
   ("application/vnd.ezpix-album", ["ez2"]),
   ("application/vnd.ezpix-package", ["ez3"]),
   ("application/vnd.fdf", ["fdf"]),
   ("application/vnd.fdsn.mseed", ["mseed"]),
   ("application/vnd.fdsn.seed", ["dataless", "seed"]),
   ("application/vnd.flographit", ["gph"]),
   ("application/vnd.fluxtime.clip", ["ftc"]),
   ("application/vnd.framemaker", ["book", "fm", "frame", "maker"]),
   ("application/vnd.frogans.fnc", ["fnc"]),
   ("application/vnd.frogans.ltf", ["ltf"]),
   ("application/vnd.fsc.weblaunch", ["fsc"]),
   ("application/vnd.fujitsu.oasys", ["oas"]),
   ("application/vnd.fujitsu.oasys2", ["oa2"]),
   ("application/vnd.fujitsu.oasys3", ["oa3"]),
   ("application/vnd.fujitsu.oasysgp", ["fg5"]),
   ("application/vnd.fujitsu.oasysprs", ["bh2"]),
   ("application/vnd.fujixerox.ddd", ["ddd"]),
   ("application/vnd.fujixerox.docuworks", ["xdw"]),
   ("application/vnd.fujixerox.docuworks.binder", ["xbd"]),
   ("application/vnd.fuzzysheet", ["fzs"]),
   ("application/vnd.genomatix.tuxedo", ["txd"]),
   ("application/vnd.geogebra.file", ["ggb"]),
   ("application/vnd.geogebra.tool", ["ggt"]),
   ("application/vnd.geometry-explorer", ["gex", "gre"]),
   ("application/vnd.geonext", ["gxt"]),
   ("application/vnd.geoplan", ["g2w"]),
   ("application/vnd.geospace", ["g3w"]),
   ("application/vnd.gmx", ["gmx"]),
   ("application/vnd.google-apps.document", ["gdoc"]),
   ("application/vnd.google-apps.presentation", ["gslides"]),
   ("application/vnd.google-apps.spreadsheet", ["gsheet"]),
   ("application/vnd.google-earth.kml+xml", ["kml"]),
   ("application/vnd.google-earth.kmz", ["kmz"]),
   ("application/vnd.grafeq", ["gqf", "gqs"]),
   ("application/vnd.groove-account", ["gac"]),
   ("application/vnd.groove-help", ["ghf"]),
   ("application/vnd.groove-identity-message", ["gim"]),
   ("application/vnd.groove-injector", ["grv"]),
   ("application/vnd.groove-tool-message", ["gtm"]),
   ("application/vnd.groove-tool-template", ["tpl"]),
   ("application/vnd.groove-vcard", ["vcg"]),
   ("application/vnd.hal+xml", ["hal"]),
   ("application/vnd.handheld-entertainment+xml", ["zmm"]),
   ("application/vnd.hbci", ["hbci"]),
   ("application/vnd.hhe.lesson-player", ["les"]),
   ("application/vnd.hp-hpgl", ["hpgl"]),
   ("application/vnd.hp-hpid", ["hpid"]),
   ("application/vnd.hp-hps", ["hps"]),
   ("application/vnd.hp-jlyt", ["jlt"]),
   ("application/vnd.hp-pcl", ["pcl"]),
   ("application/vnd.hp-pclxl", ["pclxl"]),
   ("application/vnd.hydrostatix.sof-data", ["sfd-hdstx"]),
   ("application/vnd.ibm.minipay", ["mpy"]),
   ("application/vnd.ibm.modcap", ["afp", "list3820", "listafp"]),
   ("application/vnd.ibm.rights-management", ["irm"]),
   ("application/vnd.ibm.secure-container", ["sc"]),
   ("application/vnd.iccprofile", ["icc", "icm"]),
   ("application/vnd.igloader", ["igl"]),
   ("application/vnd.immervision-ivp", ["ivp"]),
   ("application/vnd.immervision-ivu", ["ivu"]),
   ("application/vnd.insors.igm", ["igm"]),
   ("application/vnd.intercon.formnet", ["xpw", "xpx"]),
   ("application/vnd.intergeo", ["i2g"]),
   ("application/vnd.intu.qbo", ["qbo"]),
   ("application/vnd.intu.qfx", ["qfx"]),
   ("application/vnd.ipunplugged.rcprofile", ["rcprofile"]),
   ("application/vnd.irepository.package+xml", ["irp"]),
   ("application/vnd.is-xpr", ["xpr"]),
   ("application/vnd.isac.fcs", ["fcs"]),
   ("application/vnd.jam", ["jam"]),
   ("application/vnd.jcp.javame.midlet-rms", ["rms"]),
   ("application/vnd.jisp", ["jisp"]),
   ("application/vnd.joost.joda-archive", ["joda"])]

end PreviewServer.Media.Builtin
